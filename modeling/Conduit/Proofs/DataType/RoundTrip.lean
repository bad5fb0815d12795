import Conduit.DataType.Codec

/-! # Data whose JSON form stands for it

Encoding keeps apart the values of every type that is built from words, truth values, characters,
texts, the unit, points, pairs, lists, and options of what is never `null`: decoding gives the
value back (`Conduit.DataType.Built.returns`). Integers of a hundred and twenty-eight bits have to
be those that fit sixty-four bits, signed or unsigned.
-/

namespace Conduit

namespace DataType

/-- The types whose JSON form loses nothing. -/
inductive Built : DataType → Prop
  | int64 : Built int64
  | uint64 : Built uint64
  | uint32 : Built uint32
  | uint8 : Built uint8
  | int128 : Built int128
  | bool : Built bool
  | char : Built char
  | text : Built text
  | unit : Built unit
  | point : Built point
  | pair {a b : DataType} (first : Built a) (second : Built b) : Built (pair a b)
  | list {a : DataType} (element : Built a) : Built (list a)
  /-- What is there must not look as if it were absent. -/
  | option {a : DataType} (content : Built a) (present : ∀ x, a.encode x ≠ .ok .null) :
      Built (option a)

/-- All integers of a hundred and twenty-eight bits in the value are in the range of those of
sixty-four bits, signed or unsigned. -/
def InRange : (a : DataType) → a.Carrier → Prop
  | int128, n => -2 ^ 63 ≤ BitVec.toInt n ∧ BitVec.toInt n ≤ 2 ^ 64 - 1
  | pair a b, (x, y) => InRange a x ∧ InRange b y
  | list a, xs => ∀ x, List.Mem x xs → InRange a x
  | option _, none => True
  | option a, some x => InRange a x
  | _, _ => True

/-- The value has a JSON form, and that is decoded to it. -/
def Returns (a : DataType) (x : a.Carrier) : Prop := ∃ v, a.encode x = .ok v ∧ a.decode v = .ok x

theorem decodeInt_of_between {name : String} {low high n : Int} (between : low ≤ n ∧ n < high) :
    decodeInt name low high (.int n) = .ok n :=
  if_pos between

theorem decodeInt64_toInt (n : Int64) : decodeInt64 (.int n.toInt) = .ok n := by
  have between : -0x8000000000000000 ≤ n.toInt ∧ n.toInt < 0x8000000000000000 :=
    ⟨n.le_toInt, n.toInt_lt⟩
  rw [decodeInt64, decodeInt_of_between between]
  exact congrArg Except.ok (Int64.ofInt_toInt n)

/-- A number below the bound is read as itself, whatever is made of it. -/
theorem decodeInt_of_lt {α : Type} {name : String} {bound n : Nat} (below : n < bound)
    (make : Nat → α) : (decodeInt name 0 bound (.int n)).map (fun k => make k.toNat) =
      .ok (make n) := by
  have between : (0 : Int) ≤ n ∧ (n : Int) < bound := by omega
  rw [decodeInt_of_between between]
  rfl

theorem returns_uint64 (n : UInt64) : Returns .uint64 n :=
  ⟨_, rfl, (decodeInt_of_lt n.toNat_lt UInt64.ofNat).trans (congrArg _ UInt64.ofNat_toNat)⟩

theorem returns_uint32 (n : UInt32) : Returns .uint32 n :=
  ⟨_, rfl, (decodeInt_of_lt n.toNat_lt UInt32.ofNat).trans (congrArg _ UInt32.ofNat_toNat)⟩

theorem returns_uint8 (n : UInt8) : Returns .uint8 n :=
  ⟨_, rfl, (decodeInt_of_lt n.toNat_lt UInt8.ofNat).trans (congrArg _ UInt8.ofNat_toNat)⟩

/-- Just the integers in range have a JSON form, and come back. -/
theorem returns_int128_iff {n : BitVec 128} : Returns .int128 n ↔ InRange .int128 n := by
  have word : Json.isWordSized n.toInt = true ↔ InRange .int128 n := by
    simp only [Json.isWordSized, Bool.and_eq_true, decide_eq_true_eq]
    change _ ↔ -2 ^ 63 ≤ n.toInt ∧ n.toInt ≤ 2 ^ 64 - 1
    omega
  constructor
  · rintro ⟨v, encodes, -⟩
    change (if Json.isWordSized n.toInt then Except.ok (Json.int n.toInt) else .error _) = _
      at encodes
    by_cases inRange : Json.isWordSized n.toInt = true
    · exact word.mp inRange
    · rw [if_neg inRange] at encodes
      cases encodes
  · intro inRange
    have between : -0x80000000000000000000000000000000 ≤ n.toInt ∧
        n.toInt < 0x80000000000000000000000000000000 := by
      obtain ⟨low, high⟩ := inRange
      omega
    refine ⟨.int n.toInt, if_pos (word.mpr inRange), ?_⟩
    change (decodeInt "i128" (-0x80000000000000000000000000000000)
      0x80000000000000000000000000000000 (.int n.toInt)).map _ = _
    rw [decodeInt_of_between between]
    exact congrArg Except.ok BitVec.ofInt_toInt

theorem decode_char (s : String) : decode .char (.string s) =
    match s.toList with
    | [c] => .ok c
    | _ => .error (.invalidValue (.string s) "a character") := rfl

theorem returns_char (c : Char) : Returns .char c := by
  refine ⟨.string (String.singleton c), rfl, ?_⟩
  rw [decode_char, String.toList_singleton]

theorem returns_point (p : Point) : Returns .point p := by
  refine ⟨.object [("x", .int p.x.toInt), ("y", .int p.y.toInt)], ?_, ?_⟩
  · have later : ¬ "y" < "x" := by decide
    change Except.ok (Json.object (Json.insertMember "y" _ [("x", _)])) = _
    rw [Json.insertMember, if_neg later, if_neg (by decide)]
    rfl
  · change (decodeInt64 (.int p.x.toInt)).map some >>= _ = _
    rw [decodeInt64_toInt]
    change (decodeInt64 (.int p.y.toInt)).map some >>= _ = _
    rw [decodeInt64_toInt]
    rfl

theorem returns_pair {a b : DataType} {x : a.Carrier} {y : b.Carrier} (first : a.Returns x)
    (second : b.Returns y) : Returns (.pair a b) (x, y) := by
  obtain ⟨v, encodes, decodes⟩ := first
  obtain ⟨w, encodes', decodes'⟩ := second
  refine ⟨.array [v, w], ?_, ?_⟩
  · change (do return Json.array [← a.encode x, ← b.encode y]) = _
    rw [encodes, encodes']
    rfl
  · change decodeTwo "a tuple of size 2" "a tuple of size 2" a.decode b.decode (.array [v, w]) = _
    rw [decodeTwo, decodes, decodes']
    rfl

theorem returns_list {a : DataType} {xs : List a.Carrier} (each : ∀ x ∈ xs, a.Returns x) :
    Returns (.list a) xs := by
  have all : ∃ vs, xs.mapM a.encode = .ok vs ∧ vs.mapM a.decode = .ok xs := by
    induction xs with
    | nil => exact ⟨[], rfl, rfl⟩
    | cons x rest ih =>
        obtain ⟨v, encodes, decodes⟩ := each x List.mem_cons_self
        obtain ⟨vs, encodes', decodes'⟩ := ih fun z member => each z (List.mem_cons_of_mem x member)
        refine ⟨v :: vs, ?_, ?_⟩
        · rw [List.mapM_cons, encodes, encodes']
          rfl
        · rw [List.mapM_cons, decodes, decodes']
          rfl
  obtain ⟨vs, encodes, decodes⟩ := all
  refine ⟨.array vs, ?_, decodes⟩
  change (do return Json.array (← xs.mapM a.encode)) = _
  rw [encodes]
  rfl

/-- What is there comes back as such just when its own JSON form does not look absent. -/
theorem returns_some_iff {a : DataType} {x : a.Carrier} :
    Returns (.option a) (some x) ↔ a.Returns x ∧ a.encode x ≠ .ok .null := by
  have wrapped {v : Json} (there : v ≠ .null) : (option a).decode v = (a.decode v).map some := by
    cases v with
    | null => exact absurd rfl there
    | _ => rfl
  constructor
  · rintro ⟨v, encodes, decodes⟩
    change a.encode x = .ok v at encodes
    have there : v ≠ .null := by
      rintro rfl
      cases decodes
    rw [wrapped there] at decodes
    refine ⟨⟨v, encodes, ?_⟩, fun absent => ?_⟩
    · cases content : a.decode v with
      | error fault => rw [content] at decodes; cases decodes
      | ok y => rw [content] at decodes; cases decodes; rfl
    · rw [encodes] at absent
      exact there (Except.ok.inj absent)
  · rintro ⟨⟨v, encodes, decodes⟩, present⟩
    have there : v ≠ .null := by
      rintro rfl
      exact present encodes
    refine ⟨v, encodes, ?_⟩
    rw [wrapped there, decodes]
    rfl

/-- **Nothing is lost** when data of such a type is encoded and decoded. -/
theorem Built.returns {a : DataType} (built : Built a) :
    ∀ x : a.Carrier, a.InRange x → a.Returns x := by
  induction built with
  | int64 => exact fun n _ => ⟨_, rfl, decodeInt64_toInt n⟩
  | uint64 => exact fun n _ => returns_uint64 n
  | uint32 => exact fun n _ => returns_uint32 n
  | uint8 => exact fun n _ => returns_uint8 n
  | int128 => exact fun n inRange => returns_int128_iff.mpr inRange
  | bool => exact fun b _ => ⟨_, rfl, rfl⟩
  | char => exact fun c _ => returns_char c
  | text => exact fun s _ => ⟨_, rfl, rfl⟩
  | unit => exact fun _ _ => ⟨_, rfl, rfl⟩
  | point => exact fun p _ => returns_point p
  | pair first second ih ih' =>
      exact fun (x, y) inRange => returns_pair (ih x inRange.1) (ih' y inRange.2)
  | list element ih =>
      exact fun xs inRange => returns_list fun x member => ih x (inRange x member)
  | option content present ih =>
      intro o inRange
      cases o with
      | none => exact ⟨_, rfl, rfl⟩
      | some x => exact returns_some_iff.mpr ⟨ih x inRange, present x⟩

end DataType

end Conduit
