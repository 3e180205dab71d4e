import ControlPlane.Lib.BTree
import ControlPlane.Lib.Serde

/-! Types as they stand in JSON.  A codec carries the proofs that it reads what it writes and that
the order of an object's keys says nothing; what builds a codec from others keeps both. -/

universe u

namespace ControlPlane.Serde

namespace Value

variable {N : Type u}

inductive Swap : Value N → Value N → Prop
  | object {entries entries' : List (String × Value N)} (hperm : entries.Perm entries')
    (hkeys : (entries.map Prod.fst).Nodup) : Swap (.object entries) (.object entries')
  | inObject {before after : List (String × Value N)} {name : String} {nested nested' : Value N}
    (h : Swap nested nested') :
    Swap (.object (before ++ (name, nested) :: after)) (.object (before ++ (name, nested') :: after))
  | inArray {before after : List (Value N)} {nested nested' : Value N} (h : Swap nested nested') :
    Swap (.array (before ++ nested :: after)) (.array (before ++ nested' :: after))

def Reordered : Value N → Value N → Prop := Relation.ReflTransGen Swap

inductive Found : Option (Value N) → Option (Value N) → Prop
  | same (found : Option (Value N)) : Found found found
  | swapped {value value' : Value N} (h : Swap value value') : Found (some value) (some value')

variable {entries entries' : List (String × Value N)}

theorem lookup_eq_some_iff_mem (hkeys : (entries.map Prod.fst).Nodup) {name : String}
    {value : Value N} : entries.lookup name = some value ↔ (name, value) ∈ entries := by
  rw [List.lookup_eq_some_iff]
  constructor
  · intro h
    obtain ⟨before, after, heq, -⟩ := h
    rw [heq]
    exact List.mem_append_right before List.mem_cons_self
  · intro hmem
    obtain ⟨before, after, heq⟩ := List.append_of_mem hmem
    refine ⟨before, after, heq, ?_⟩
    intro entry hentry
    rw [heq, List.map_append, List.nodup_append] at hkeys
    exact bne_iff_ne.2
      (hkeys.2.2 entry.1 (List.mem_map_of_mem hentry) name List.mem_cons_self).symm

theorem lookup_perm (hperm : entries.Perm entries') (hkeys : (entries.map Prod.fst).Nodup)
    (name : String) : entries.lookup name = entries'.lookup name := by
  refine Option.ext fun value => ?_
  rw [lookup_eq_some_iff_mem hkeys,
    lookup_eq_some_iff_mem ((hperm.map Prod.fst).nodup_iff.1 hkeys), hperm.mem_iff]

theorem found_lookup {before after : List (String × Value N)} {key : String}
    {nested nested' : Value N} (h : Swap nested nested') (name : String) :
    Found ((before ++ (key, nested) :: after).lookup name)
      ((before ++ (key, nested') :: after).lookup name) := by
  rw [List.lookup_append, List.lookup_append, List.lookup_cons, List.lookup_cons]
  cases before.lookup name with
  | some value => exact .same _
  | none =>
    by_cases hname : name == key
    · simp only [hname, Option.none_or]
      exact .swapped h
    · simp only [hname]
      exact .same _

/-- Arrays and objects stand in each other at most so many times. -/
inductive Nests : Nat → Value N → Prop
  | null (depth : Nat) : Nests depth .null
  | bool (depth : Nat) (value : Bool) : Nests depth (.bool value)
  | number (depth : Nat) (value : N) : Nests depth (.number value)
  | string (depth : Nat) (value : String) : Nests depth (.string value)
  | array {depth : Nat} {values : List (Value N)} (h : ∀ value ∈ values, Nests depth value) :
    Nests (depth + 1) (.array values)
  | object {depth : Nat} {entries : List (String × Value N)}
    (h : ∀ entry ∈ entries, Nests depth entry.2) : Nests (depth + 1) (.object entries)

theorem Nests.mono {depth : Nat} {value : Value N} (h : Nests depth value) {depth' : Nat}
    (hle : depth ≤ depth') : Nests depth' value := by
  induction h generalizing depth' with
  | null => exact .null depth'
  | bool _ value => exact .bool depth' value
  | number _ value => exact .number depth' value
  | string _ value => exact .string depth' value
  | array _ ih =>
    cases depth' with
    | zero => exact absurd hle (Nat.not_succ_le_zero _)
    | succ depth' =>
      exact .array fun value hvalue => ih value hvalue (Nat.le_of_succ_le_succ hle)
  | object _ ih =>
    cases depth' with
    | zero => exact absurd hle (Nat.not_succ_le_zero _)
    | succ depth' =>
      exact .object fun entry hentry => ih entry hentry (Nat.le_of_succ_le_succ hle)

end Value

open Value (Swap Found Nests)

/-- How the values of a type are written and read. -/
structure Codec (N : Type u) (T : Type) where
  encode : T → Value N
  decode : Value N → Option T
  /-- What the text of a value can say. -/
  Valid : T → Prop
  /-- What is so of all values that are read. -/
  Typed : T → Prop
  /-- The value as reading it builds it. -/
  rebuild : T → T
  depth : Nat
  nests_encode : ∀ value, Nests depth (encode value)
  decode_encode : ∀ {value}, Valid value → decode (encode value) = some (rebuild value)
  typed_of_decode : ∀ {written value}, decode written = some value → Typed value
  rebuild_of_typed : ∀ {value}, Typed value → rebuild value = value
  decode_swap : ∀ {written written'}, Swap written written' → decode written = decode written'

structure Field (N : Type u) (A : Type) where
  name : String
  codec : Codec N A
  /-- What a missing member stands for. -/
  absent : Option A
  skip : A → Bool
  rebuild_of_skip : ∀ {value}, skip value = true → absent = some (codec.rebuild value)
  typed_of_absent : ∀ {value}, absent = some value → codec.Typed value

structure Fields (N : Type u) (A : Type) where
  names : List String
  nodup : names.Nodup
  encode : A → List (String × Value N)
  decode : (String → Option (Value N)) → Option A
  Valid : A → Prop
  Typed : A → Prop
  rebuild : A → A
  depth : Nat
  nests_encode : ∀ value, ∀ entry ∈ encode value, Nests depth entry.2
  encode_names : ∀ value, ((encode value).map Prod.fst).Sublist names
  decode_encode : ∀ {value find}, Valid value →
    (∀ name ∈ names, find name = (encode value).lookup name) → decode find = some (rebuild value)
  typed_of_decode : ∀ {find value}, decode find = some value → Typed value
  rebuild_of_typed : ∀ {value}, Typed value → rebuild value = value
  decode_found : ∀ {find find'}, (∀ name ∈ names, Found (find name) (find' name)) →
    decode find = decode find'

namespace Codec

variable {N : Type u} {T : Type}

theorem decode_reordered (codec : Codec N T) {written written' : Value N}
    (h : written.Reordered written') : codec.decode written = codec.decode written' := by
  induction h with
  | refl => rfl
  | tail _ hswap ih => rw [ih, codec.decode_swap hswap]

theorem decode_encode_typed (codec : Codec N T) {value : T} (hvalid : codec.Valid value)
    (htyped : codec.Typed value) : codec.decode (codec.encode value) = some value := by
  rw [codec.decode_encode hvalid, codec.rebuild_of_typed htyped]

def scalar (encode : T → Value N) (decode : Value N → Option T) (Valid Typed : T → Prop)
    (nests_encode : ∀ value, Nests 0 (encode value))
    (decode_encode : ∀ {value}, Valid value → decode (encode value) = some value)
    (typed_of_decode : ∀ {written value}, decode written = some value → Typed value)
    (array : ∀ values, decode (.array values) = none)
    (object : ∀ entries, decode (.object entries) = none) : Codec N T where
  encode := encode
  decode := decode
  Valid := Valid
  Typed := Typed
  rebuild := id
  depth := 0
  nests_encode := nests_encode
  decode_encode := decode_encode
  typed_of_decode := typed_of_decode
  rebuild_of_typed _ := rfl
  decode_swap h := by
    cases h with
    | object | inObject => rw [object, object]
    | inArray => rw [array, array]

def string : Codec N String :=
  scalar .string (fun | .string value => some value | _ => none) (fun _ => True) (fun _ => True)
    (.string 0) (fun _ => rfl) (fun _ => trivial) (fun _ => rfl) fun _ => rfl

def bool : Codec N Bool :=
  scalar .bool (fun | .bool value => some value | _ => none) (fun _ => True) (fun _ => True)
    (.bool 0) (fun _ => rfl) (fun _ => trivial) (fun _ => rfl) fun _ => rfl

def text (display : T → String) (parse : String → Option T) (Valid : T → Prop)
    (parse_display : ∀ {value}, Valid value → parse (display value) = some value)
    (valid_of_parse : ∀ {text value}, parse text = some value → Valid value) : Codec N T :=
  scalar (fun value => .string (display value)) (fun | .string text => parse text | _ => none)
    Valid Valid (fun value => .string 0 (display value)) parse_display
    (by
      intro written value h
      cases written with
      | string text => exact valid_of_parse h
      | null | bool | number | array | object => cases h)
    (fun _ => rfl) fun _ => rfl

def option (codec : Codec N T) (hnull : codec.decode .null = none)
    (hrebuild : ∀ value, codec.rebuild value = value) : Codec N (Option T) where
  encode
    | none => .null
    | some value => codec.encode value
  decode
    | .null => some none
    | written => (codec.decode written).map some
  Valid value := ∀ inner ∈ value, codec.Valid inner
  Typed value := ∀ inner ∈ value, codec.Typed inner
  rebuild := id
  depth := codec.depth
  nests_encode
    | none => .null codec.depth
    | some value => codec.nests_encode value
  decode_encode {value} hvalid := by
    cases value with
    | none => rfl
    | some value =>
      have hread := codec.decode_encode (hvalid value rfl)
      rw [hrebuild] at hread
      dsimp only
      split
      · next hnone =>
        rw [hnone, hnull] at hread
        cases hread
      · rw [hread]
        rfl
  typed_of_decode {written value} h := by
    split at h
    · cases h
      exact fun inner hinner => absurd hinner (Option.not_mem_none inner)
    · obtain ⟨inner, hinner, rfl⟩ := Option.map_eq_some_iff.1 h
      intro other hother
      cases hother
      exact codec.typed_of_decode hinner
  rebuild_of_typed _ := rfl
  decode_swap h := by
    have hcodec := codec.decode_swap h
    cases h <;> exact congrArg (Option.map some) hcodec

theorem mem_of_mapM {A : Type u} {f : A → Option T} {l : List A} {values : List T}
    (h : l.mapM f = some values) {value : T} (hvalue : value ∈ values) :
    ∃ a ∈ l, f a = some value := by
  induction l generalizing values with
  | nil =>
    cases h
    cases hvalue
  | cons a l ih =>
    rw [List.mapM_cons] at h
    obtain ⟨first, hfirst, h⟩ := Option.bind_eq_some_iff.1 h
    obtain ⟨rest, hrest, h⟩ := Option.bind_eq_some_iff.1 h
    cases h
    cases hvalue with
    | head => exact ⟨a, List.mem_cons_self, hfirst⟩
    | tail _ hvalue =>
      obtain ⟨other, hother, hread⟩ := ih hrest hvalue
      exact ⟨other, List.mem_cons_of_mem a hother, hread⟩

def list (codec : Codec N T) (hrebuild : ∀ value, codec.rebuild value = value) :
    Codec N (List T) where
  encode values := .array (values.map codec.encode)
  decode
    | .array values => values.mapM codec.decode
    | _ => none
  Valid values := ∀ value ∈ values, codec.Valid value
  Typed values := ∀ value ∈ values, codec.Typed value
  rebuild := id
  depth := codec.depth + 1
  nests_encode values := by
    refine .array fun written hwritten => ?_
    obtain ⟨value, -, rfl⟩ := List.mem_map.1 hwritten
    exact codec.nests_encode value
  decode_encode {values} hvalid := by
    dsimp only
    induction values with
    | nil => rfl
    | cons value values ih =>
      rw [List.map_cons, List.mapM_cons, codec.decode_encode (hvalid value List.mem_cons_self),
        ih fun other hother => hvalid other (List.mem_cons_of_mem value hother), hrebuild]
      rfl
  typed_of_decode {written values} h := by
    cases written with
    | array elements =>
      dsimp only at h
      intro value hvalue
      obtain ⟨element, -, helement⟩ := mem_of_mapM h hvalue
      exact codec.typed_of_decode helement
    | null | bool | number | string | object => cases h
  rebuild_of_typed _ := rfl
  decode_swap h := by
    cases h with
    | object | inObject => rfl
    | inArray h =>
      dsimp only
      rw [List.mapM_append, List.mapM_append, List.mapM_cons, List.mapM_cons, codec.decode_swap h]

section Map

variable (codec : Codec N T)

def decodeEntries : List (String × Value N) → Option (List (String × T))
  | [] => some []
  | entry :: entries =>
    (codec.decode entry.2).bind fun value =>
      (decodeEntries entries).map fun values => (entry.1, value) :: values

theorem decodeEntries_keys {entries : List (String × Value N)} {values : List (String × T)}
    (h : codec.decodeEntries entries = some values) :
    values.map Prod.fst = entries.map Prod.fst := by
  induction entries generalizing values with
  | nil =>
    cases h
    rfl
  | cons entry entries ih =>
    rw [decodeEntries, Option.bind_eq_some_iff] at h
    obtain ⟨value, -, h⟩ := h
    obtain ⟨rest, hrest, rfl⟩ := Option.map_eq_some_iff.1 h
    rw [List.map_cons, List.map_cons, ih hrest]

theorem decodeEntries_perm {entries entries' : List (String × Value N)}
    (h : entries.Perm entries') :
    Option.Rel List.Perm (codec.decodeEntries entries) (codec.decodeEntries entries') := by
  induction h with
  | nil => exact .some (.refl [])
  | @cons entry entries entries' _ ih =>
    rw [decodeEntries, decodeEntries]
    cases codec.decode entry.2 with
    | none => exact .none
    | some value =>
      generalize codec.decodeEntries entries = values at ih
      generalize codec.decodeEntries entries' = values' at ih
      cases ih with
      | none => exact .none
      | some ih => exact .some (ih.cons _)
  | swap first second entries =>
    simp only [decodeEntries]
    cases codec.decode first.2 with
    | none =>
      cases codec.decode second.2 with
      | none => exact .none
      | some => exact .none
    | some =>
      cases codec.decode second.2 with
      | none => exact .none
      | some =>
        cases codec.decodeEntries entries with
        | none => exact .none
        | some values => exact .some (List.Perm.swap _ _ values)
  | @trans entries entries' entries'' _ _ ih ih' =>
    generalize codec.decodeEntries entries = values at ih
    generalize codec.decodeEntries entries' = values' at ih ih'
    generalize codec.decodeEntries entries'' = values'' at ih'
    cases ih with
    | none => exact ih'
    | some h =>
      cases ih' with
      | some h' => exact .some (h.trans h')

theorem decodeEntries_swap {before after : List (String × Value N)} {name : String}
    {nested nested' : Value N} (h : Swap nested nested') :
    codec.decodeEntries (before ++ (name, nested) :: after) =
      codec.decodeEntries (before ++ (name, nested') :: after) := by
  induction before with
  | nil => rw [List.nil_append, List.nil_append, decodeEntries, decodeEntries, codec.decode_swap h]
  | cons entry before ih => rw [List.cons_append, List.cons_append, decodeEntries, decodeEntries, ih]

/-- `BTreeMap`: a key that comes again takes the value of its last entry. -/
def map (hrebuild : ∀ value, codec.rebuild value = value) : Codec N (BTreeMap String T) where
  encode m := .object (m.toList.map fun entry => (entry.1, codec.encode entry.2))
  decode
    | .object entries =>
      (codec.decodeEntries entries).map fun values =>
        BTreeMap.canonical (Std.TreeMap.ofList values)
    | _ => none
  Valid m := ∀ entry ∈ m.toList, codec.Valid entry.2
  Typed m := m.canonical = m
  rebuild := BTreeMap.canonical
  depth := codec.depth + 1
  nests_encode m := by
    refine .object fun written hwritten => ?_
    obtain ⟨entry, -, rfl⟩ := List.mem_map.1 hwritten
    exact codec.nests_encode entry.2
  decode_encode {m} hvalid := by
    have hread : codec.decodeEntries (m.toList.map fun entry => (entry.1, codec.encode entry.2)) =
        some m.toList := by
      generalize m.toList = entries at hvalid
      induction entries with
      | nil => rfl
      | cons entry entries ih =>
        rw [List.map_cons, decodeEntries, codec.decode_encode (hvalid entry List.mem_cons_self),
          ih fun other hother => hvalid other (List.mem_cons_of_mem entry hother), hrebuild]
        rfl
    dsimp only
    rw [hread, Option.map_some]
    exact congrArg some (BTreeMap.canonical_eq_of_equiv m.canonical_equiv)
  typed_of_decode {written m} h := by
    cases written with
    | object entries =>
      obtain ⟨values, -, rfl⟩ := Option.map_eq_some_iff.1 h
      exact BTreeMap.canonical_eq_of_equiv (BTreeMap.canonical_equiv _)
    | null | bool | number | string | array => cases h
  rebuild_of_typed h := h
  decode_swap h := by
    cases h with
    | @object entries entries' hperm hkeys =>
      have hrel := codec.decodeEntries_perm hperm
      have hvalues : ∀ values, codec.decodeEntries entries = some values →
          values.map Prod.fst = entries.map Prod.fst := fun values => codec.decodeEntries_keys
      dsimp only
      generalize codec.decodeEntries entries = read at hrel hvalues
      generalize codec.decodeEntries entries' = read' at hrel
      cases hrel with
      | none => rfl
      | some h =>
        rw [Option.map_some, Option.map_some]
        exact congrArg some (BTreeMap.canonical_eq_of_equiv
          (BTreeMap.ofList_equiv_of_perm ((hvalues _ rfl).symm ▸ hkeys) h))
    | inObject h => exact congrArg (Option.map _) (codec.decodeEntries_swap h)
    | inArray => rfl

end Map

end Codec

/-- The name of a variant that holds nothing: a string, or the only key of an object.  From a
buffer an empty object passes for the null under it. -/
def Value.unitVariant {N : Type u} (buffered : Bool) : Value N → Option String
  | .string name => some name
  | .object [(name, .null)] => some name
  | .object [(name, .object [])] => if buffered then some name else none
  | _ => none

theorem Value.unitVariant_of_two {N : Type u} (buffered : Bool)
    {entries : List (String × Value N)} (h : 2 ≤ entries.length) :
    (Value.object entries).unitVariant buffered = none := by
  match entries with
  | [] | [_] => simp at h
  | _ :: _ :: _ => simp only [unitVariant]

theorem Value.unitVariant_swap {N : Type u} (buffered : Bool) {written written' : Value N}
    (h : Swap written written') :
    written.unitVariant buffered = written'.unitVariant buffered := by
  cases h with
  | @object entries entries' hperm =>
    match entries with
    | [] => rw [hperm.nil_eq]
    | [entry] => rw [hperm.singleton_eq]
    | first :: second :: rest =>
      have hlength : 2 ≤ (first :: second :: rest).length := by simp
      rw [unitVariant_of_two buffered hlength,
        unitVariant_of_two buffered (hperm.length_eq ▸ hlength)]
  | @inObject before after name nested nested' h =>
    by_cases hone : before.length + after.length = 0
    · obtain ⟨hbefore, hafter⟩ := Nat.add_eq_zero_iff.1 hone
      rw [List.length_eq_zero_iff.1 hbefore, List.length_eq_zero_iff.1 hafter, List.nil_append,
        List.nil_append]
      cases h with
      | @object inner inner' hperm =>
        cases inner with
        | nil => rw [hperm.nil_eq]
        | cons entry inner =>
          cases inner' with
          | nil => exact absurd hperm.symm.nil_eq (List.cons_ne_nil _ _).symm
          | cons entry' inner' => simp only [unitVariant]
      | @inObject before after =>
        cases before <;> simp only [unitVariant, List.nil_append, List.cons_append]
      | inArray => rfl
    · rw [unitVariant_of_two, unitVariant_of_two]
      · simp only [List.length_append, List.length_cons]
        omega
      · simp only [List.length_append, List.length_cons]
        omega
  | inArray => rfl

/-- An enumeration by the names of its variants. -/
def Codec.enumeration {N : Type u} {T : Type} (buffered : Bool) (variants : List T)
    (name : T → String) (hname : ∀ value, variants.find? (name · == name value) = some value) :
    Codec N T where
  encode value := .string (name value)
  decode written := (written.unitVariant buffered).bind fun given => variants.find? (name · == given)
  Valid _ := True
  Typed _ := True
  rebuild := id
  depth := 0
  nests_encode value := .string 0 (name value)
  decode_encode {value} _ := hname value
  typed_of_decode _ := trivial
  rebuild_of_typed _ := rfl
  decode_swap h := by rw [Value.unitVariant_swap buffered h]

namespace Field

variable {N : Type u} {A : Type}

def required (name : String) (codec : Codec N A) : Field N A where
  name := name
  codec := codec
  absent := none
  skip _ := false
  rebuild_of_skip h := by cases h
  typed_of_absent h := by cases h

/-- `#[serde(default)]` -/
def defaulted (name : String) (codec : Codec N A) (default : A) (hdefault : codec.Typed default) :
    Field N A where
  name := name
  codec := codec
  absent := some default
  skip _ := false
  rebuild_of_skip h := by cases h
  typed_of_absent h := by
    cases h
    exact hdefault

/-- `#[serde(default, skip_serializing_if = "Option::is_none")]` -/
def optional (name : String) (codec : Codec N A) (hnull : codec.decode .null = none)
    (hrebuild : ∀ value, codec.rebuild value = value) : Field N (Option A) where
  name := name
  codec := codec.option hnull hrebuild
  absent := some none
  skip := Option.isNone
  rebuild_of_skip {value} h := by
    cases value with
    | none => rfl
    | some value => cases h
  typed_of_absent h := by
    cases h
    exact fun inner hinner => absurd hinner (Option.not_mem_none inner)

def entry (field : Field N A) (value : A) : List (String × Value N) :=
  if field.skip value then [] else [(field.name, field.codec.encode value)]

def read (field : Field N A) : Option (Value N) → Option A
  | none => field.absent
  | some written => field.codec.decode written

variable (field : Field N A)

theorem nests_entry (value : A) : ∀ entry ∈ field.entry value, Nests field.codec.depth entry.2 := by
  unfold entry
  split
  · exact List.forall_mem_nil _
  · exact List.forall_mem_singleton.2 (field.codec.nests_encode value)

theorem entry_names (value : A) : ((field.entry value).map Prod.fst).Sublist [field.name] := by
  unfold entry
  split
  · exact List.nil_sublist _
  · exact List.Sublist.refl _

theorem lookup_entry_of_ne {name : String} (hne : name ≠ field.name) (value : A) :
    (field.entry value).lookup name = none := by
  unfold entry
  split
  · rfl
  · rw [List.lookup_cons, beq_eq_false_iff_ne.2 hne]
    rfl

theorem read_entry {value : A} (hvalid : field.codec.Valid value) :
    field.read ((field.entry value).lookup field.name) = some (field.codec.rebuild value) := by
  unfold entry
  split
  · next hskip => exact field.rebuild_of_skip hskip
  · rw [List.lookup_cons_self]
    exact field.codec.decode_encode hvalid

theorem typed_of_read {found : Option (Value N)} {value : A} (h : field.read found = some value) :
    field.codec.Typed value := by
  cases found with
  | none => exact field.typed_of_absent h
  | some written => exact field.codec.typed_of_decode h

theorem ne_null_of_decode {codec : Codec N A} (hnull : codec.decode .null = none)
    {written : Value N} {value : A} (h : codec.decode written = some value) : written ≠ .null := by
  rintro rfl
  rw [hnull] at h
  cases h

theorem read_optional_some {name : String} {codec : Codec N A} {hnull : codec.decode .null = none}
    {hrebuild : ∀ value, codec.rebuild value = value} {written : Value N} (h : written ≠ .null) :
    (optional name codec hnull hrebuild).read (some written) =
      (codec.decode written).map some := by
  cases written with
  | null => exact absurd rfl h
  | bool | number | string | array | object => rfl

theorem read_optional_map {B : Type} {name : String} {codec : Codec N A}
    {hnull : codec.decode .null = none} {hrebuild : ∀ value, codec.rebuild value = value}
    {write : B → Value N} {read : B → A} {value : Option B}
    (h : ∀ b ∈ value, codec.decode (write b) = some (read b)) :
    (optional name codec hnull hrebuild).read (value.map write) = some (value.map read) := by
  cases value with
  | none => rfl
  | some b =>
    have hread := h b rfl
    rw [Option.map_some, read_optional_some (ne_null_of_decode hnull hread), hread]
    rfl

theorem read_found {found found' : Option (Value N)} (h : Found found found') :
    field.read found = field.read found' := by
  cases h with
  | same => rfl
  | swapped h => exact field.codec.decode_swap h

end Field

namespace Fields

variable {N : Type u} {A B T : Type}

def nil : Fields N Unit where
  names := []
  nodup := List.nodup_nil
  encode _ := []
  decode _ := some ()
  Valid _ := True
  Typed _ := True
  rebuild := id
  depth := 0
  nests_encode _ := List.forall_mem_nil _
  encode_names _ := List.Sublist.refl []
  decode_encode _ _ := rfl
  typed_of_decode _ := trivial
  rebuild_of_typed _ := rfl
  decode_found _ := rfl

theorem not_mem_of_contains {names : List String} {name : String}
    (h : names.contains name = false) : name ∉ names := by
  intro hmem
  rw [List.contains_iff_mem.2 hmem] at h
  cases h

def cons (field : Field N A) (fields : Fields N B)
    (hnew : fields.names.contains field.name = false := by rfl) : Fields N (A × B) where
  names := field.name :: fields.names
  nodup := List.nodup_cons.2 ⟨not_mem_of_contains hnew, fields.nodup⟩
  encode value := field.entry value.1 ++ fields.encode value.2
  decode find := do
    let first ← field.read (find field.name)
    let rest ← fields.decode find
    some (first, rest)
  Valid value := field.codec.Valid value.1 ∧ fields.Valid value.2
  Typed value := field.codec.Typed value.1 ∧ fields.Typed value.2
  rebuild value := (field.codec.rebuild value.1, fields.rebuild value.2)
  depth := max field.codec.depth fields.depth
  nests_encode value entry hentry := by
    rcases List.mem_append.1 hentry with hentry | hentry
    · exact (field.nests_entry value.1 entry hentry).mono (Nat.le_max_left _ _)
    · exact (fields.nests_encode value.2 entry hentry).mono (Nat.le_max_right _ _)
  encode_names value := by
    rw [List.map_append]
    exact (field.entry_names value.1).append (fields.encode_names value.2)
  decode_encode {value find} hvalid hfind := by
    have hfirst : find field.name = (field.entry value.1).lookup field.name := by
      have hrest : (fields.encode value.2).lookup field.name = none := by
        refine List.lookup_eq_none_iff.2 ?_
        intro entry hentry
        refine bne_iff_ne.2 ?_
        intro heq
        exact not_mem_of_contains hnew (heq ▸ (fields.encode_names value.2).subset (List.mem_map_of_mem hentry))
      rw [hfind _ List.mem_cons_self, List.lookup_append, hrest, Option.or_none]
    have hrest : fields.decode find = some (fields.rebuild value.2) := by
      refine fields.decode_encode hvalid.2 ?_
      intro name hname
      have hne : name ≠ field.name := fun heq =>
        not_mem_of_contains hnew (heq ▸ hname)
      rw [hfind name (List.mem_cons_of_mem _ hname), List.lookup_append,
        field.lookup_entry_of_ne hne, Option.none_or]
    rw [hfirst, field.read_entry hvalid.1, hrest]
    rfl
  typed_of_decode {find value} h := by
    obtain ⟨first, hfirst, h⟩ := Option.bind_eq_some_iff.1 h
    obtain ⟨rest, hrest, h⟩ := Option.bind_eq_some_iff.1 h
    cases h
    exact ⟨field.typed_of_read hfirst, fields.typed_of_decode hrest⟩
  rebuild_of_typed h :=
    Prod.ext (field.codec.rebuild_of_typed h.1) (fields.rebuild_of_typed h.2)
  decode_found {find find'} hfound := by
    rw [field.read_found (hfound _ List.mem_cons_self),
      fields.decode_found fun name hname => hfound name (List.mem_cons_of_mem _ hname)]

theorem decode_cons_eq_some {field : Field N A} {fields : Fields N B}
    {hnew : fields.names.contains field.name = false} {find : String → Option (Value N)}
    {value : A × B} : (cons field fields hnew).decode find = some value ↔
      field.read (find field.name) = some value.1 ∧ fields.decode find = some value.2 := by
  constructor
  · intro h
    obtain ⟨first, hfirst, h⟩ := Option.bind_eq_some_iff.1 h
    obtain ⟨rest, hrest, h⟩ := Option.bind_eq_some_iff.1 h
    cases h
    exact ⟨hfirst, hrest⟩
  · rintro ⟨hfirst, hrest⟩
    exact Option.bind_eq_some_iff.2 ⟨_, hfirst, Option.bind_eq_some_iff.2 ⟨_, hrest, rfl⟩⟩

/-- An enumeration with its variant under one key and what the variant holds under another. -/
def adjacent (tag content : String) (hne : tag ≠ content) (kind : T → String) (data : T → Value N)
    (read : String → Value N → Option T) (Valid Typed : T → Prop) (rebuild : T → T) (depth : Nat)
    (nests_data : ∀ value, Nests depth (data value))
    (read_data : ∀ {value}, Valid value → read (kind value) (data value) = some (rebuild value))
    (typed_of_read : ∀ {variant written value}, read variant written = some value → Typed value)
    (rebuild_of_typed : ∀ {value}, Typed value → rebuild value = value)
    (read_swap : ∀ {variant written written'}, Swap written written' →
      read variant written = read variant written') : Fields N T where
  names := [tag, content]
  nodup := by simpa using hne
  encode value := [(tag, .string (kind value)), (content, data value)]
  decode find :=
    ((find tag).bind (Value.unitVariant true)).bind fun variant => (find content).bind (read variant)
  Valid := Valid
  Typed := Typed
  rebuild := rebuild
  depth := depth
  nests_encode value :=
    List.forall_mem_cons.2 ⟨.string depth _, List.forall_mem_singleton.2 (nests_data value)⟩
  encode_names _ := List.Sublist.refl _
  decode_encode {value find} hvalid hfind := by
    have htag : find tag = some (.string (kind value)) := by
      rw [hfind tag List.mem_cons_self, List.lookup_cons_self]
    have hcontent : find content = some (data value) := by
      rw [hfind content (by simp), List.lookup_cons, beq_eq_false_iff_ne.2 hne.symm]
      exact List.lookup_cons_self
    rw [htag, hcontent]
    exact read_data hvalid
  typed_of_decode h := by
    obtain ⟨variant, -, h⟩ := Option.bind_eq_some_iff.1 h
    obtain ⟨written, -, h⟩ := Option.bind_eq_some_iff.1 h
    exact typed_of_read h
  rebuild_of_typed := rebuild_of_typed
  decode_found {find find'} hfound := by
    have htag : (find tag).bind (Value.unitVariant true) =
        (find' tag).bind (Value.unitVariant true) :=
      match find tag, find' tag, hfound tag List.mem_cons_self with
      | _, _, .same _ => rfl
      | _, _, .swapped h => Value.unitVariant_swap true h
    have hcontent : ∀ variant, (find content).bind (read variant) =
        (find' content).bind (read variant) := fun variant =>
      match find content, find' content, hfound content (by simp) with
      | _, _, .same _ => rfl
      | _, _, .swapped h => read_swap h
    simp only [htag, hcontent]

structure Shape where
  /-- `#[serde(deny_unknown_fields)]` -/
  denyUnknown : Bool
  /-- An array gives the members in their order; without a flattened one only. -/
  positional : Bool

def Once (fields : Fields N A) (entries : List (String × Value N)) : Bool :=
  fields.names.all fun name => (entries.map Prod.fst).count name ≤ 1

def Known (fields : Fields N A) (entries : List (String × Value N)) : Bool :=
  (entries.map Prod.fst).all fun name => fields.names.contains name

def read (fields : Fields N A) (shape : Shape) : Value N → Option A
  | .object entries =>
    if fields.Once entries && (!shape.denyUnknown || fields.Known entries) then
      fields.decode fun name => entries.lookup name
    else none
  | .array values =>
    if shape.positional && values.length ≤ fields.names.length then
      fields.decode fun name => (fields.names.zip values).lookup name
    else none
  | _ => none

variable (fields : Fields N A) (shape : Shape)

theorem read_object {entries : List (String × Value N)} {names : List String}
    (hkeys : (entries.map Prod.fst).Sublist names) (hnodup : names.Nodup)
    (hknown : names ⊆ fields.names) :
    fields.read shape (.object entries) = fields.decode fun name => entries.lookup name := by
  have honce : fields.Once entries = true := by
    refine List.all_eq_true.2 ?_
    intro name _
    exact decide_eq_true (List.nodup_iff_count_le_one.1 (hkeys.nodup hnodup) name)
  have hallKnown : fields.Known entries = true := by
    refine List.all_eq_true.2 ?_
    intro name hname
    exact List.contains_iff_mem.2 (hknown (hkeys.subset hname))
  rw [read, honce, hallKnown, Bool.or_true, Bool.and_true, if_pos rfl]

theorem read_encode {value : A} (hvalid : fields.Valid value) :
    fields.read shape (.object (fields.encode value)) = some (fields.rebuild value) := by
  rw [fields.read_object shape (fields.encode_names value) fields.nodup (List.Subset.refl _)]
  exact fields.decode_encode hvalid fun name _ => rfl

theorem read_of_unknown {entries : List (String × Value N)} {name : String}
    (hdeny : shape.denyUnknown = true) (hname : name ∈ entries.map Prod.fst)
    (hunknown : fields.names.contains name = false) :
    fields.read shape (.object entries) = none := by
  have hknown : fields.Known entries = false := by
    refine List.all_eq_false.2 ⟨name, hname, ?_⟩
    rw [hunknown]
    exact Bool.false_ne_true
  rw [read, hdeny, hknown, Bool.not_true, Bool.or_false, Bool.and_false, if_neg Bool.false_ne_true]

theorem typed_of_read {written : Value N} {value : A}
    (h : fields.read shape written = some value) : fields.Typed value := by
  unfold read at h
  split at h
  · split at h
    · exact fields.typed_of_decode h
    · cases h
  · split at h
    · exact fields.typed_of_decode h
    · cases h
  · cases h

theorem read_swap {written written' : Value N} (h : Swap written written') :
    fields.read shape written = fields.read shape written' := by
  cases h with
  | @object entries entries' hperm hkeys =>
    have hmap := hperm.map Prod.fst
    have honce : fields.Once entries = fields.Once entries' := by
      unfold Once
      simp only [hmap.count_eq]
    have hknown : fields.Known entries = fields.Known entries' := hmap.all_eq
    rw [read, read, honce, hknown]
    simp only [Value.lookup_perm hperm hkeys]
  | @inObject before after name nested nested' h =>
    have hmap : (before ++ (name, nested) :: after).map Prod.fst =
        (before ++ (name, nested') :: after).map Prod.fst := by
      simp
    rw [read, read, Once, Once, Known, Known, hmap,
      fields.decode_found fun name _ => Value.found_lookup h name]
  | @inArray before after nested nested' h =>
    have hlength : (before ++ nested :: after).length = (before ++ nested' :: after).length := by
      simp
    rw [read, read, hlength]
    split
    · next hshort =>
      -- the members before the one that changed take the values before it
      have hlt : before.length < fields.names.length := by
        simp only [Bool.and_eq_true, decide_eq_true_eq, List.length_append,
          List.length_cons] at hshort
        omega
      have hzip : ∀ value : Value N, fields.names.zip (before ++ value :: after) =
          (fields.names.take before.length).zip before ++
            (fields.names[before.length], value) ::
              (fields.names.drop (before.length + 1)).zip after := by
        intro value
        have hsplit := List.take_append_drop before.length fields.names
        rw [List.drop_eq_getElem_cons hlt] at hsplit
        rw [← List.zip_cons_cons, ← List.zip_append (by simp; omega), hsplit]
      refine fields.decode_found ?_
      intro name _
      rw [hzip, hzip]
      exact Value.found_lookup h name
    · rfl

end Fields

def Codec.struct {N : Type u} {A T : Type} (fields : Fields N A) (shape : Fields.Shape)
    (split : T → A) (join : A → T) (split_join : ∀ a, split (join a) = a := by intro; rfl)
    (join_split : ∀ value, join (split value) = value := by intro; rfl) : Codec N T where
  encode value := .object (fields.encode (split value))
  decode written := (fields.read shape written).map join
  Valid value := fields.Valid (split value)
  Typed value := fields.Typed (split value)
  rebuild value := join (fields.rebuild (split value))
  depth := fields.depth + 1
  nests_encode value := .object (fields.nests_encode (split value))
  decode_encode hvalid := by rw [fields.read_encode shape hvalid, Option.map_some]
  typed_of_decode h := by
    obtain ⟨a, ha, rfl⟩ := Option.map_eq_some_iff.1 h
    rw [split_join]
    exact fields.typed_of_read shape ha
  rebuild_of_typed h := by rw [fields.rebuild_of_typed h, join_split]
  decode_swap h := by rw [fields.read_swap shape h]

end ControlPlane.Serde
