import ControlPlane.Lib.JsonSyntax
import ControlPlane.Protocol.Wire

/-! The texts and bytes that a JSON document travels as, and the payloads that the listeners read
from them. -/

namespace ControlPlane

open Serde (Value Codec NumberText)

def asBytes (text : String) : List UInt8 := text.toUTF8.data.toList

def fromUtf8 (bytes : List UInt8) : Option String := String.fromUTF8? ⟨bytes.toArray⟩

@[simp] theorem fromUtf8_asBytes (text : String) : fromUtf8 (asBytes text) = some text := by
  have hvalid : ByteArray.IsValidUTF8 ⟨(asBytes text).toArray⟩ := text.isValidUTF8
  rw [fromUtf8, String.fromUTF8?, dif_pos hvalid]
  rfl

/-- The serializer of compact texts and the parser, which follows a text to its recursion limit. -/
class JsonText (N : Type) where
  print : Value N → String
  parse : String → Except String (Value N)
  /-- What is said of a value that is not of the type asked for. -/
  mismatch : Value N → String
  /-- What is said of bytes that are no text. -/
  notUnicode : List UInt8 → String
  parse_print : ∀ {value}, value.Nests 127 → parse (print value) = .ok value
  /-- Line ends are escaped in strings, and there are none between them. -/
  print_line : ∀ value, ∀ byte ∈ asBytes (print value), byte ≠ 10 ∧ byte ≠ 13

theorem asBytes_eq (text : String) : asBytes text = text.toList.flatMap String.utf8EncodeChar := by
  rw [asBytes, String.toUTF8_eq_toByteArray, ← String.utf8Encode_toList, List.utf8Encode,
    List.toList_data_toByteArray]

theorem length_asBytes_le (text : String) : (asBytes text).length ≤ 4 * text.toList.length := by
  rw [asBytes_eq, List.length_flatMap]
  calc
    (text.toList.map fun c => (String.utf8EncodeChar c).length).sum ≤
        (text.toList.map fun _ => 4).sum := List.sum_le_sum fun c _ => by
      rw [String.length_utf8EncodeChar]
      exact c.utf8Size_le_four
    _ = 4 * text.toList.length := by
      rw [List.map_const', List.sum_replicate, smul_eq_mul, Nat.mul_comm]

theorem le_of_mem_utf8EncodeChar {c : Char} (h : 32 ≤ c.toNat) {byte : UInt8}
    (hbyte : byte ∈ String.utf8EncodeChar c) : 32 ≤ byte.toNat := by
  have hbytes : ∀ n < 256, 32 ≤ n → 32 ≤ (UInt8.ofNat n).toNat := fun n hlt hle => by
    rw [UInt8.toNat_ofNat_of_lt' hlt]
    exact hle
  have hc : 32 ≤ c.val.toNat := h
  rw [String.utf8EncodeChar] at hbyte
  generalize c.val.toNat = v at hbyte hc
  split at hbyte
  · rw [List.mem_singleton.1 hbyte]
    exact hbytes v (by omega) hc
  · split at hbyte
    · simp only [List.mem_cons, List.not_mem_nil, or_false] at hbyte
      rcases hbyte with rfl | rfl <;> exact hbytes _ (by omega) (by omega)
    · split at hbyte
      · simp only [List.mem_cons, List.not_mem_nil, or_false] at hbyte
        rcases hbyte with rfl | rfl | rfl <;> exact hbytes _ (by omega) (by omega)
      · simp only [List.mem_cons, List.not_mem_nil, or_false] at hbyte
        rcases hbyte with rfl | rfl | rfl | rfl <;> exact hbytes _ (by omega) (by omega)

theorem ne_of_mem_asBytes {chars : List Char} (h : ∀ c ∈ chars, 32 ≤ c.toNat) {byte : UInt8}
    (hbyte : byte ∈ asBytes (String.ofList chars)) : byte ≠ 10 ∧ byte ≠ 13 := by
  rw [asBytes_eq, String.toList_ofList] at hbyte
  obtain ⟨c, hc, hbyte⟩ := List.mem_flatMap.1 hbyte
  have hle := le_of_mem_utf8EncodeChar (h c hc) hbyte
  constructor
  · rintro rfl
    exact absurd hle (by decide)
  · rintro rfl
    exact absurd hle (by decide)

abbrev compactText (N : Type) [NumberText N] : JsonText N where
  print value := String.ofList value.print
  parse text :=
    match Value.parse 127 text.toList with
    | some value => .ok value
    | none => .error "expected value"
  mismatch _ := "invalid type"
  notUnicode _ := "invalid unicode code point"
  parse_print h := by rw [String.toList_ofList, Value.parse_print h]
  print_line value _ hbyte := ne_of_mem_asBytes (Value.isVisible_print value) hbyte

section Text

variable {N T : Type} [JsonText N]

def fromStr (codec : Codec N T) (text : String) : Except String T :=
  match JsonText.parse text with
  | .error error => .error error
  | .ok written =>
    match codec.decode written with
    | some value => .ok value
    | none => .error (JsonText.mismatch written)

def fromSlice (codec : Codec N T) (bytes : List UInt8) : Except String T :=
  match fromUtf8 bytes with
  | some text => fromStr codec text
  | none => .error (JsonText.notUnicode (N := N) bytes)

def toVec (written : Value N) : List UInt8 := asBytes (JsonText.print written)

theorem fromStr_print {codec : Codec N T} {written : Value N} {value : T}
    (hnests : written.Nests 127) (h : codec.decode written = some value) :
    fromStr codec (JsonText.print written) = .ok value := by
  rw [fromStr, JsonText.parse_print hnests]
  dsimp only
  rw [h]

theorem fromSlice_toVec {codec : Codec N T} {written : Value N} {value : T}
    (hnests : written.Nests 127) (h : codec.decode written = some value) :
    fromSlice codec (toVec written) = .ok value := by
  rw [fromSlice, toVec, fromUtf8_asBytes]
  exact fromStr_print hnests h

end Text

section Payload

variable (N : Type) [WireNumber N] [WireText] [JsonText N]

/-- The deserializer of payloads that the listeners use. -/
def wireParser : PayloadParser where
  fromStr := fromStr (TransportPayload.codec : Codec N _)
  fromSlice := fromSlice (TransportPayload.codec : Codec N _)

variable {N}

theorem read_payload (payload : TransportPayload) (hvalid : payload.intoParts.2.validate = .ok ())
    (hfits : payload.intoParts.2.Fits) :
    fromStr (TransportPayload.codec : Codec N _)
      (JsonText.print (TransportPayload.codec.encode payload : Value N)) = .ok payload.rebuilt :=
  fromStr_print ((TransportPayload.codec.nests_encode payload).mono (Nat.le_of_ble_eq_true rfl))
    (TransportPayload.codec.decode_encode (TransportPayload.valid_of_fits hvalid hfits))

end Payload

namespace Sample

/-- Digits; a float, which no sample sends, is printed as its bits. -/
instance numberText : Serde.NumberText Numeral where
  print
    | .unsigned n => Nat.toDigits 10 n
    | .float x => '0' :: '.' :: Nat.toDigits 10 x.bits.toNat
  parse text :=
    if text.all Char.isDigit then some (.unsigned (Nat.ofDigitChars 10 text 0))
    else some (.float ⟨BitVec.ofNat 32 (Nat.ofDigitChars 10 (text.drop 2) 0)⟩)
  parse_print numeral := by
    cases numeral with
    | unsigned n =>
      have hdigits : (Nat.toDigits 10 n).all Char.isDigit = true := List.all_eq_true.2
        fun c hc => Nat.isDigit_of_mem_toDigits (by decide) (by decide) hc
      dsimp only
      rw [if_pos hdigits, Nat.ofDigitChars_ten_toDigits]
    | float x =>
      have hpoint : ('0' :: '.' :: Nat.toDigits 10 x.bits.toNat).all Char.isDigit = false := rfl
      dsimp only
      rw [hpoint, if_neg Bool.false_ne_true, List.drop_succ_cons, List.drop_succ_cons,
        List.drop_zero, Nat.ofDigitChars_ten_toDigits, BitVec.ofNat_toNat, BitVec.setWidth_eq]
  print_ne_nil numeral := by
    cases numeral with
    | unsigned n => exact Nat.toDigits_ne_nil
    | float x => exact List.cons_ne_nil _ _
  isNumberChar_of_print numeral := by
    have hdigits : ∀ n, (Nat.toDigits 10 n).all Serde.isNumberChar = true := fun n =>
      List.all_eq_true.2 fun c hc => by
        rw [Serde.isNumberChar, Nat.isDigit_of_mem_toDigits (by decide) (by decide) hc]
        rfl
    cases numeral with
    | unsigned n => exact hdigits n
    | float x => exact hdigits x.bits.toNat

instance jsonText : JsonText Numeral := compactText Numeral

def line (payload : TransportPayload) : String :=
  JsonText.print (TransportPayload.codec.encode payload : Value Numeral)

theorem read_line (payload : TransportPayload) (hvalid : payload.intoParts.2.validate = .ok ())
    (hfits : payload.intoParts.2.Fits) :
    (wireParser Numeral).fromStr (line payload) = .ok payload.rebuilt :=
  read_payload payload hvalid hfits

end Sample

end ControlPlane
