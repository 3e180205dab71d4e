import ControlPlane.Lib.Codec
import ControlPlane.Lib.Hex

/-! JSON texts: the compact text of a value, and a reader that follows a text to a depth and reads
every compact text back. -/

namespace ControlPlane.Serde

def isNumberChar (c : Char) : Bool :=
  c.isDigit || c == '-' || c == '+' || c == '.' || c == 'e' || c == 'E'

class NumberText (N : Type) where
  print : N → List Char
  parse : List Char → Option N
  parse_print : ∀ n, parse (print n) = some n
  print_ne_nil : ∀ n, print n ≠ []
  isNumberChar_of_print : ∀ n, (print n).all isNumberChar

namespace Value

def letters : List (Char × Char) :=
  [('"', '"'), ('\\', '\\'), ('\x08', 'b'), ('\x0c', 'f'), ('\n', 'n'), ('\r', 'r'), ('\t', 't')]

def escape (c : Char) : List Char :=
  match letters.lookup c with
  | some letter => ['\\', letter]
  | none => if c.toNat < 0x20 then '\\' :: 'u' :: Hex.padded 4 c.toNat else [c]

def quote (text : String) : List Char := '"' :: (text.toList.flatMap escape ++ ['"'])

def nullWord : List Char := ['n', 'u', 'l', 'l']

def trueWord : List Char := ['t', 'r', 'u', 'e']

def falseWord : List Char := ['f', 'a', 'l', 's', 'e']

section Print

variable {N : Type} [NumberText N]

mutual

def print : Value N → List Char
  | .null => nullWord
  | .bool true => trueWord
  | .bool false => falseWord
  | .number n => NumberText.print n
  | .string text => quote text
  | .array [] => ['[', ']']
  | .array (value :: values) => '[' :: (print value ++ (printValues values ++ [']']))
  | .object [] => ['\x7b', '\x7d']
  | .object ((name, value) :: entries) =>
    '\x7b' :: (quote name ++ ':' :: print value ++ (printEntries entries ++ ['\x7d']))

def printValues : List (Value N) → List Char
  | [] => []
  | value :: values => ',' :: (print value ++ printValues values)

def printEntries : List (String × Value N) → List Char
  | [] => []
  | (name, value) :: entries =>
    ',' :: (quote name ++ ':' :: print value ++ printEntries entries)

end

def printEntry (entry : String × Value N) : List Char := quote entry.1 ++ ':' :: print entry.2

end Print

def isSpace (c : Char) : Bool := c == ' ' || c == '\n' || c == '\r' || c == '\t'

def skipSpace (text : List Char) : List Char := text.dropWhile isSpace

def readUnit (text : List Char) : Option (Nat × List Char) :=
  if text.length < 4 then none else (Hex.read (text.take 4)).map fun unit => (unit, text.drop 4)

def readLow (high : Nat) : List Char → Option (Char × List Char)
  | '\\' :: 'u' :: text => do
    let (low, text) ← readUnit text
    if 0xDC00 ≤ low ∧ low < 0xE000 then
      some (Char.ofNat (0x10000 + (high - 0xD800) * 0x400 + (low - 0xDC00)), text)
    else none
  | _ => none

def readEscape : List Char → Option (Char × List Char)
  | [] => none
  | letter :: text =>
    if letter = 'u' then do
      let (unit, text) ← readUnit text
      if unit < 0xD800 ∨ 0xE000 ≤ unit then some (Char.ofNat unit, text)
      else if unit < 0xDC00 then readLow unit text
      else none
    else if letter = '/' then some ('/', text)
    else (letters.find? (·.2 == letter)).map fun found => (found.1, text)

def readChar : List Char → Option (Char × List Char)
  | [] => none
  | c :: text =>
    if c = '\\' then readEscape text else if c.toNat < 0x20 then none else some (c, text)

def readString : Nat → List Char → Option (List Char × List Char)
  | 0, _ => none
  | fuel + 1, text =>
    if text.head? = some '"' then some ([], text.tail)
    else do
      let (c, text) ← readChar text
      let (chars, text) ← readString fuel text
      some (c :: chars, text)

def readQuoted (text : List Char) : Option (String × List Char) :=
  (readString text.length text).map fun (chars, text) => (String.ofList chars, text)

section Members

variable {A : Type} (close : Char) (read : List Char → Option (A × List Char))

def readMembers : Nat → List Char → Option (List A × List Char)
  | 0, _ => none
  | fuel + 1, text => do
    let (a, text) ← read text
    match skipSpace text with
    | [] => none
    | c :: text =>
      if c = ',' then (readMembers fuel text).map fun (members, text) => (a :: members, text)
      else if c = close then some ([a], text)
      else none

def readList (text : List Char) : Option (List A × List Char) :=
  if (skipSpace text).head? = some close then some ([], (skipSpace text).tail)
  else readMembers close read text.length text

def readEntry (text : List Char) : Option ((String × A) × List Char) :=
  match skipSpace text with
  | [] => none
  | c :: text =>
    if c = '"' then do
      let (name, text) ← readQuoted text
      match skipSpace text with
      | [] => none
      | c :: text =>
        if c = ':' then (read text).map fun (a, text) => ((name, a), text) else none
    else none

end Members

section Parse

variable {N : Type} [NumberText N]

def readScalar (text : List Char) : Option (Value N × List Char) :=
  if nullWord.isPrefixOf text then some (.null, text.drop 4)
  else if trueWord.isPrefixOf text then some (.bool true, text.drop 4)
  else if falseWord.isPrefixOf text then some (.bool false, text.drop 5)
  else if text.head? = some '"' then
    (readQuoted text.tail).map fun (chars, text) => (.string chars, text)
  else
    (NumberText.parse (text.takeWhile isNumberChar)).map fun n =>
      (.number n, text.dropWhile isNumberChar)

/-- So many arrays and objects may stand in each other. -/
def readValue : Nat → List Char → Option (Value N × List Char)
  | 0, text => readScalar (skipSpace text)
  | depth + 1, text =>
    let text := skipSpace text
    if text.head? = some '[' then
      (readList ']' (readValue depth) text.tail).map fun (values, text) => (.array values, text)
    else if text.head? = some '\x7b' then
      (readList '\x7d' (readEntry (readValue depth)) text.tail).map fun (entries, text) =>
        (.object entries, text)
    else readScalar text

def parse (depth : Nat) (text : List Char) : Option (Value N) :=
  match readValue depth text with
  | some (value, rest) => if skipSpace rest = [] then some value else none
  | none => none

end Parse

theorem skipSpace_of_head {c : Char} (h : isSpace c = false) (text : List Char) :
    skipSpace (c :: text) = c :: text := by
  rw [skipSpace, List.dropWhile_cons, h, if_neg Bool.false_ne_true]

theorem readUnit_padded {unit : Nat} (h : unit < 16 ^ 4) (text : List Char) :
    readUnit (Hex.padded 4 unit ++ text) = some (unit, text) := by
  have hlength : (Hex.padded 4 unit).length = 4 := Hex.length_padded 4 unit
  rw [readUnit, if_neg (by rw [List.length_append]; omega), List.take_left' hlength,
    List.drop_left' hlength, Hex.read_padded, Nat.mod_eq_of_lt h]
  rfl

theorem letters_spec : letters.all (fun pair => pair.2 != 'u' && pair.2 != '/' &&
    (letters.find? fun other => other.2 == pair.2) == some pair) = true := by decide

theorem readChar_escape (c : Char) (text : List Char) :
    readChar (escape c ++ text) = some (c, text) := by
  rw [escape]
  cases hletter : letters.lookup c with
  | some letter =>
    obtain ⟨before, after, heq, -⟩ := List.lookup_eq_some_iff.1 hletter
    have hmem : (c, letter) ∈ letters := heq ▸ List.mem_append_right before List.mem_cons_self
    have hspec := List.all_eq_true.1 letters_spec _ hmem
    simp only [Bool.and_eq_true, bne_iff_ne, beq_iff_eq] at hspec
    obtain ⟨⟨hunit, hslash⟩, hfind⟩ := hspec
    show readEscape (letter :: text) = _
    rw [readEscape, if_neg hunit, if_neg hslash, hfind]
    rfl
  | none =>
    dsimp only
    split
    · next hcontrol =>
      show readEscape ('u' :: (Hex.padded 4 c.toNat ++ text)) = _
      rw [readEscape, if_pos rfl, readUnit_padded (hcontrol.trans (by decide))]
      simp only [Option.bind_eq_bind, Option.bind_some]
      rw [if_pos (.inl (hcontrol.trans (by decide))), Char.ofNat_toNat]
    · next hplain =>
      have hbackslash : c ≠ '\\' := by
        rintro rfl
        cases hletter
      rw [List.singleton_append, readChar, if_neg hbackslash, if_neg hplain]

theorem head_escape (c : Char) (text : List Char) : (escape c ++ text).head? ≠ some '"' := by
  rw [escape]
  cases hletter : letters.lookup c with
  | some letter => exact fun h => absurd (Option.some.inj h) (by decide)
  | none =>
    dsimp only
    split
    · exact fun h => absurd (Option.some.inj h) (by decide)
    · intro h
      cases h
      cases hletter

theorem readString_escaped (chars text : List Char) {fuel : Nat} (hfuel : chars.length < fuel) :
    readString fuel (chars.flatMap escape ++ '"' :: text) = some (chars, text) := by
  induction chars generalizing fuel with
  | nil =>
    obtain ⟨fuel, rfl⟩ := Nat.exists_eq_succ_of_ne_zero hfuel.ne_bot
    rfl
  | cons c chars ih =>
    obtain ⟨fuel, rfl⟩ := Nat.exists_eq_succ_of_ne_zero (Nat.ne_zero_of_lt hfuel)
    rw [List.flatMap_cons, List.append_assoc, readString, if_neg (head_escape c _),
      readChar_escape]
    simp only [Option.bind_eq_bind, Option.bind_some]
    rw [ih (Nat.lt_of_succ_lt_succ hfuel)]
    rfl

theorem length_escape_pos (c : Char) : 0 < (escape c).length := by
  rw [escape]
  split
  · exact Nat.succ_pos _
  · split <;> exact Nat.succ_pos _

theorem length_escape_le (c : Char) : (escape c).length ≤ 6 := by
  rw [escape]
  split
  · exact Nat.le_of_ble_eq_true rfl
  · split
    · simp
    · exact Nat.le_of_ble_eq_true rfl

theorem length_quote_le (text : String) : (quote text).length ≤ 2 + 6 * text.toList.length := by
  have hescaped : (text.toList.flatMap escape).length ≤ 6 * text.toList.length := by
    rw [List.length_flatMap]
    calc
      (text.toList.map fun c => (escape c).length).sum ≤ (text.toList.map fun _ => 6).sum :=
        List.sum_le_sum fun c _ => length_escape_le c
      _ = 6 * text.toList.length := by
        rw [List.map_const', List.sum_replicate, smul_eq_mul, Nat.mul_comm]
  simp only [quote, List.length_cons, List.length_append, List.length_nil]
  omega

theorem readQuoted_quote (name : String) (text : List Char) :
    readQuoted (name.toList.flatMap escape ++ '"' :: text) = some (name, text) := by
  have hlength : name.toList.length ≤ (name.toList.flatMap escape).length := by
    rw [List.length_flatMap]
    calc
      name.toList.length = (name.toList.map fun _ => 1).sum := by simp
      _ ≤ (name.toList.map fun c => (escape c).length).sum :=
        List.sum_le_sum fun c _ => length_escape_pos c
  rw [readQuoted,
    readString_escaped _ _ (by simp only [List.length_append, List.length_cons]; omega)]
  exact congrArg (fun name => some (name, text)) String.ofList_toList

def Follows (text : List Char) : Prop := ∀ c ∈ text.head?, isNumberChar c = false

theorem follows_cons {c : Char} (h : isNumberChar c = false) (text : List Char) :
    Follows (c :: text) := by
  intro d hd
  cases hd
  exact h

theorem ne_of_isNumberChar {c d : Char} (hc : isNumberChar c = true) (hd : isNumberChar d = false) :
    c ≠ d := by
  rintro rfl
  exact Bool.false_ne_true (hd.symm.trans hc)

structure Closes (close : Char) : Prop where
  isSpace : isSpace close = false
  isNumberChar : isNumberChar close = false
  ne_comma : close ≠ ','

section Members

variable {A : Type} {close : Char} (read : List Char → Option (A × List Char))
  (write : A → List Char)

theorem readMembers_written (hclose : Closes close) (a : A) (members : List A) (rest : List Char)
    (hread : ∀ b ∈ a :: members, ∀ text, Follows text → read (write b ++ text) = some (b, text))
    {fuel : Nat} (hfuel : members.length < fuel) :
    readMembers close read fuel
      (write a ++ ((members.flatMap fun b => ',' :: write b) ++ close :: rest)) =
        some (a :: members, rest) := by
  induction members generalizing a fuel with
  | nil =>
    obtain ⟨fuel, rfl⟩ := Nat.exists_eq_succ_of_ne_zero hfuel.ne_bot
    rw [List.flatMap_nil, List.nil_append, readMembers,
      hread a List.mem_cons_self _ (follows_cons hclose.isNumberChar rest)]
    simp only [Option.bind_eq_bind, Option.bind_some]
    rw [skipSpace_of_head hclose.isSpace]
    dsimp only
    rw [if_neg hclose.ne_comma, if_pos rfl]
  | cons b members ih =>
    obtain ⟨fuel, rfl⟩ := Nat.exists_eq_succ_of_ne_zero (Nat.ne_zero_of_lt hfuel)
    rw [List.flatMap_cons, List.cons_append, List.cons_append, readMembers,
      hread a List.mem_cons_self _ (follows_cons (by decide) _)]
    simp only [Option.bind_eq_bind, Option.bind_some]
    rw [skipSpace_of_head (by decide)]
    dsimp only
    rw [if_pos rfl, List.append_assoc,
      ih b (fun c hc => hread c (List.mem_cons_of_mem a hc)) (Nat.lt_of_succ_lt_succ hfuel)]
    rfl

theorem readList_written (hclose : Closes close) (a : A) (members : List A) (rest : List Char)
    (hhead : ∀ text, (skipSpace (write a ++ text)).head? ≠ some close)
    (hread : ∀ b ∈ a :: members, ∀ text, Follows text → read (write b ++ text) = some (b, text)) :
    readList close read
      (write a ++ ((members.flatMap fun b => ',' :: write b) ++ close :: rest)) =
        some (a :: members, rest) := by
  have hlength : members.length ≤ (members.flatMap fun b => ',' :: write b).length := by
    rw [List.length_flatMap]
    calc
      members.length = (members.map fun _ => 1).sum := by simp
      _ ≤ (members.map fun b => (',' :: write b).length).sum :=
        List.sum_le_sum fun b _ => Nat.succ_pos _
  rw [readList, if_neg (hhead _)]
  refine readMembers_written read write hclose a members rest hread ?_
  simp only [List.length_append, List.length_cons]
  omega

theorem readEntry_written {entry : String × A} {text : List Char}
    (hread : read (write entry.2 ++ text) = some (entry.2, text)) :
    readEntry read (quote entry.1 ++ ':' :: write entry.2 ++ text) = some (entry, text) := by
  have hquote : quote entry.1 ++ ':' :: write entry.2 ++ text =
      '"' :: (entry.1.toList.flatMap escape ++ '"' :: ':' :: (write entry.2 ++ text)) := by
    simp only [quote, List.cons_append, List.append_assoc, List.nil_append]
  rw [hquote, readEntry, skipSpace_of_head (by decide)]
  dsimp only
  rw [if_pos rfl, readQuoted_quote]
  simp only [Option.bind_eq_bind, Option.bind_some]
  rw [skipSpace_of_head (by decide)]
  dsimp only
  rw [if_pos rfl, hread]
  rfl

end Members

section Values

variable {N : Type} [NumberText N]

theorem printValues_eq (values : List (Value N)) :
    printValues values = values.flatMap fun value => ',' :: print value := by
  induction values with
  | nil => rfl
  | cons value values ih => rw [printValues, ih, List.flatMap_cons, List.cons_append]

theorem printEntries_eq (entries : List (String × Value N)) :
    printEntries entries = entries.flatMap fun entry => ',' :: printEntry entry := by
  induction entries with
  | nil => rfl
  | cons entry entries ih =>
    obtain ⟨name, value⟩ := entry
    rw [printEntries, ih, List.flatMap_cons, List.cons_append]
    rfl

theorem starts_print (value : Value N) : ∃ c rest, print value = c :: rest ∧ isSpace c = false ∧
    c ≠ ']' := by
  cases value with
  | null => exact ⟨_, _, rfl, by decide, by decide⟩
  | bool value => cases value <;> exact ⟨_, _, rfl, by decide, by decide⟩
  | number n =>
    have hchars := NumberText.isNumberChar_of_print n
    rw [print]
    cases hprint : NumberText.print n with
    | nil => exact absurd hprint (NumberText.print_ne_nil n)
    | cons c rest =>
      rw [hprint] at hchars
      have hc := List.all_eq_true.1 hchars c List.mem_cons_self
      refine ⟨c, rest, rfl, ?_, ne_of_isNumberChar hc (by decide)⟩
      refine Bool.eq_false_iff.2 ?_
      intro hspace
      simp only [isSpace, Bool.or_eq_true, beq_iff_eq] at hspace
      rcases hspace with ((rfl | rfl) | rfl) | rfl <;> exact absurd hc (by decide)
  | string text => exact ⟨_, _, rfl, by decide, by decide⟩
  | array values => cases values <;> exact ⟨_, _, rfl, by decide, by decide⟩
  | object entries => cases entries <;> exact ⟨_, _, rfl, by decide, by decide⟩

theorem closes_array : Closes ']' := ⟨by decide, by decide, by decide⟩

theorem closes_object : Closes '\x7d' := ⟨by decide, by decide, by decide⟩

theorem head_print (value : Value N) (text : List Char) :
    (skipSpace (print value ++ text)).head? ≠ some ']' := by
  obtain ⟨c, rest, hprint, hspace, hne⟩ := starts_print value
  rw [hprint, List.cons_append, skipSpace_of_head hspace]
  exact fun heq => hne (Option.some.inj heq)

theorem readValue_scalar {c : Char} (hspace : isSpace c = false) (harray : c ≠ '[')
    (hobject : c ≠ '\x7b') (depth : Nat) (text : List Char) :
    (readValue depth (c :: text) : Option (Value N × List Char)) = readScalar (c :: text) := by
  cases depth with
  | zero => rw [readValue, skipSpace_of_head hspace]
  | succ depth =>
    have hhead : ∀ {d : Char}, c ≠ d → (c :: text).head? ≠ some d := fun hne heq =>
      hne (Option.some.inj heq)
    rw [readValue, skipSpace_of_head hspace]
    dsimp only
    rw [if_neg (hhead harray), if_neg (hhead hobject)]

theorem readScalar_number (n : N) {rest : List Char} (hrest : Follows rest) :
    readScalar (NumberText.print n ++ rest) = some (.number n, rest) := by
  have hchars := NumberText.isNumberChar_of_print n
  have htake : (NumberText.print n ++ rest).takeWhile isNumberChar = NumberText.print n := by
    rw [List.takeWhile_append_of_pos (List.all_eq_true.1 hchars)]
    cases rest with
    | nil => exact List.append_nil _
    | cons c rest => rw [List.takeWhile_cons, hrest c rfl, if_neg Bool.false_ne_true, List.append_nil]
  have hdrop : (NumberText.print n ++ rest).dropWhile isNumberChar = rest := by
    rw [List.dropWhile_append_of_pos (List.all_eq_true.1 hchars)]
    cases rest with
    | nil => rfl
    | cons c rest => rw [List.dropWhile_cons, hrest c rfl, if_neg Bool.false_ne_true]
  rw [readScalar, htake, hdrop, NumberText.parse_print]
  cases hprint : NumberText.print n with
  | nil => exact absurd hprint (NumberText.print_ne_nil n)
  | cons c digits =>
    rw [hprint] at hchars
    have hc := List.all_eq_true.1 hchars c List.mem_cons_self
    have hword : ∀ {d : Char} {word : List Char}, isNumberChar d = false →
        (d :: word).isPrefixOf (c :: digits ++ rest) = false := by
      intro d word hd
      rw [List.cons_append, List.isPrefixOf, beq_eq_false_iff_ne.2 (ne_of_isNumberChar hc hd).symm,
        Bool.false_and]
    have hquote : (c :: digits ++ rest).head? ≠ some '"' := fun heq =>
      ne_of_isNumberChar hc (by decide : isNumberChar '"' = false) (Option.some.inj heq)
    rw [nullWord, hword (by decide), trueWord, hword (by decide), falseWord, hword (by decide),
      if_neg Bool.false_ne_true, if_neg Bool.false_ne_true, if_neg Bool.false_ne_true,
      if_neg hquote]
    rfl

theorem readValue_print (value : Value N) {depth : Nat} (hnests : value.Nests depth)
    (rest : List Char) (hrest : Follows rest) :
    readValue depth (print value ++ rest) = some (value, rest) := by
  induction value using Value.induction generalizing depth rest with
  | null => exact readValue_scalar (by decide) (by decide) (by decide) depth _
  | bool value =>
    cases value with
    | true => exact readValue_scalar (by decide) (by decide) (by decide) depth _
    | false => exact readValue_scalar (by decide) (by decide) (by decide) depth _
  | number n =>
    obtain ⟨c, digits, hprint, hspace, -⟩ := starts_print (.number n)
    have hc : isNumberChar c = true := by
      have hchars := NumberText.isNumberChar_of_print n
      rw [print] at hprint
      rw [hprint] at hchars
      exact List.all_eq_true.1 hchars c List.mem_cons_self
    rw [hprint, List.cons_append, readValue_scalar hspace (ne_of_isNumberChar hc (by decide))
      (ne_of_isNumberChar hc (by decide)), ← List.cons_append, ← hprint]
    exact readScalar_number n hrest
  | string text =>
    rw [print, quote, List.cons_append, readValue_scalar (by decide) (by decide) (by decide),
      List.append_assoc, List.singleton_append]
    show (readQuoted (text.toList.flatMap escape ++ '"' :: rest)).map _ = _
    rw [readQuoted_quote]
    rfl
  | array values ih =>
    obtain ⟨depth, rfl, hvalues⟩ : ∃ d, depth = d + 1 ∧ ∀ value ∈ values, Nests d value := by
      cases hnests with
      | array h => exact ⟨_, rfl, h⟩
    cases values with
    | nil => rfl
    | cons value values =>
      have hread := readList_written (readValue depth) print closes_array value
        values rest (fun text => head_print value text)
        fun nested hnested => ih nested hnested (hvalues nested hnested)
      rw [← printValues_eq] at hread
      rw [print, List.cons_append, List.append_assoc, List.append_assoc, List.singleton_append]
      show (readList ']' (readValue depth)
        (print value ++ (printValues values ++ ']' :: rest))).map _ = _
      rw [hread]
      rfl
  | object entries ih =>
    obtain ⟨depth, rfl, hentries⟩ : ∃ d, depth = d + 1 ∧ ∀ entry ∈ entries, Nests d entry.2 := by
      cases hnests with
      | object h => exact ⟨_, rfl, h⟩
    cases entries with
    | nil => rfl
    | cons entry entries =>
      have hread := readList_written (readEntry (readValue depth)) printEntry
        closes_object entry entries rest (fun _ heq => absurd (Option.some.inj heq) (by decide))
        fun nested hnested _ hfollows => readEntry_written (readValue depth) print
          (ih nested hnested (hentries nested hnested) _ hfollows)
      rw [← printEntries_eq] at hread
      have hprint : print (.object (entry :: entries)) ++ rest =
          '\x7b' :: (printEntry entry ++ (printEntries entries ++ '\x7d' :: rest)) := by
        simp only [print, printEntry, List.cons_append, List.append_assoc, List.nil_append]
      rw [hprint]
      show (readList '\x7d' (readEntry (readValue depth))
        (printEntry entry ++ (printEntries entries ++ '\x7d' :: rest))).map _ = _
      rw [hread]
      rfl

/-- Every compact text is read back. -/
theorem parse_print {value : Value N} {depth : Nat} (hnests : value.Nests depth) :
    parse depth (print value) = some value := by
  have hread := readValue_print value hnests [] nofun
  rw [List.append_nil] at hread
  rw [parse, hread]
  rfl

def IsVisible (c : Char) : Prop := 32 ≤ c.toNat

theorem isVisible_of_isNumberChar {c : Char} (h : isNumberChar c = true) : IsVisible c := by
  simp only [isNumberChar, Bool.or_eq_true, beq_iff_eq, Char.isDigit, Bool.and_eq_true,
    decide_eq_true_eq] at h
  rcases h with ((((h | rfl) | rfl) | rfl) | rfl) | rfl
  · have hle : 48 ≤ c.toNat := h.1
    exact le_trans (by decide) hle
  all_goals
    show 32 ≤ _
    decide

theorem isVisible_digit (d : Nat) : IsVisible (Hex.digit d) := by
  have hlt : d % 16 < 16 := Nat.mod_lt _ (by decide)
  rw [IsVisible, Hex.digit]
  generalize d % 16 = e at hlt
  interval_cases e <;> decide

theorem letters_visible : letters.all (fun pair => decide (32 ≤ pair.2.toNat)) = true := by decide

theorem isVisible_escape {c d : Char} (h : d ∈ escape c) : IsVisible d := by
  rw [escape] at h
  cases hletter : letters.lookup c with
  | some letter =>
    obtain ⟨before, after, heq, -⟩ := List.lookup_eq_some_iff.1 hletter
    have hmem : (c, letter) ∈ letters := heq ▸ List.mem_append_right before List.mem_cons_self
    have hvisible := of_decide_eq_true (List.all_eq_true.1 letters_visible _ hmem)
    rw [hletter] at h
    simp only [List.mem_cons, List.not_mem_nil, or_false] at h
    rcases h with rfl | rfl
    · show 32 ≤ _
      decide
    · exact hvisible
  | none =>
    rw [hletter] at h
    dsimp only at h
    split at h
    · simp only [List.mem_cons] at h
      rcases h with rfl | rfl | h
      · show 32 ≤ _
        decide
      · show 32 ≤ _
        decide
      · obtain ⟨digit, rfl⟩ := Hex.mem_padded h
        exact isVisible_digit digit
    · next hplain =>
      rw [List.mem_singleton.1 h]
      exact Nat.le_of_not_lt hplain

theorem isVisible_quote {text : String} {c : Char} (h : c ∈ quote text) : IsVisible c := by
  have hquote : IsVisible '"' := by
    show 32 ≤ _
    decide
  simp only [quote, List.mem_cons, List.mem_append, List.mem_flatMap, List.not_mem_nil,
    or_false] at h
  rcases h with rfl | ⟨d, -, h⟩ | rfl
  · exact hquote
  · exact isVisible_escape h
  · exact hquote

def signs : List Char :=
  ['n', 'u', 'l', 't', 'r', 'e', 'f', 'a', 's', '[', ']', '\x7b', '\x7d', ',', ':']

theorem signs_visible : signs.all (fun c => decide (32 ≤ c.toNat)) = true := by decide

theorem isVisible_print (value : Value N) : ∀ c ∈ print value, IsVisible c := by
  have hsign : ∀ c ∈ signs, IsVisible c := fun c hc =>
    (of_decide_eq_true (List.all_eq_true.1 signs_visible c hc) : 32 ≤ c.toNat)
  induction value using Value.induction with
  | null =>
    intro c hc
    refine hsign c ?_
    simp only [print, nullWord, List.mem_cons, List.not_mem_nil, or_false] at hc
    rcases hc with rfl | rfl | rfl | rfl <;> simp [signs]
  | bool value =>
    intro c hc
    refine hsign c ?_
    cases value with
    | true =>
      simp only [print, trueWord, List.mem_cons, List.not_mem_nil, or_false] at hc
      rcases hc with rfl | rfl | rfl | rfl <;> simp [signs]
    | false =>
      simp only [print, falseWord, List.mem_cons, List.not_mem_nil, or_false] at hc
      rcases hc with rfl | rfl | rfl | rfl | rfl <;> simp [signs]
  | number n =>
    intro c hc
    exact isVisible_of_isNumberChar (List.all_eq_true.1 (NumberText.isNumberChar_of_print n) c hc)
  | string text => exact fun c hc => isVisible_quote hc
  | array values ih =>
    intro c hc
    cases values with
    | nil =>
      refine hsign c ?_
      simp only [print, List.mem_cons, List.not_mem_nil, or_false] at hc
      rcases hc with rfl | rfl <;> simp [signs]
    | cons value values =>
      simp only [print, printValues_eq, List.mem_cons, List.mem_append, List.mem_flatMap,
        List.not_mem_nil, or_false] at hc
      rcases hc with rfl | hc | ⟨nested, hnested, rfl | hc⟩ | rfl
      · exact hsign _ (by simp [signs])
      · exact ih value List.mem_cons_self c hc
      · exact hsign _ (by simp [signs])
      · exact ih nested (List.mem_cons_of_mem value hnested) c hc
      · exact hsign _ (by simp [signs])
  | object entries ih =>
    have hentry : ∀ entry ∈ entries, ∀ c ∈ printEntry entry, IsVisible c := by
      intro entry hentry c hc
      simp only [printEntry, List.mem_append, List.mem_cons] at hc
      rcases hc with hc | rfl | hc
      · exact isVisible_quote hc
      · exact hsign _ (by simp [signs])
      · exact ih entry hentry c hc
    intro c hc
    cases entries with
    | nil =>
      refine hsign c ?_
      simp only [print, List.mem_cons, List.not_mem_nil, or_false] at hc
      rcases hc with rfl | rfl <;> simp [signs]
    | cons entry entries =>
      have hprint : print (.object (entry :: entries)) =
          '\x7b' :: (printEntry entry ++ (printEntries entries ++ ['\x7d'])) := by
        simp only [print, printEntry, List.append_assoc, List.cons_append]
      rw [hprint, printEntries_eq] at hc
      simp only [List.mem_cons, List.mem_append, List.mem_flatMap, List.not_mem_nil,
        or_false] at hc
      rcases hc with rfl | hc | ⟨nested, hnested, rfl | hc⟩ | rfl
      · exact hsign _ (by simp [signs])
      · exact hentry entry List.mem_cons_self c hc
      · exact hsign _ (by simp [signs])
      · exact hentry nested (List.mem_cons_of_mem entry hnested) c hc
      · exact hsign _ (by simp [signs])

end Values

end Value

end ControlPlane.Serde
