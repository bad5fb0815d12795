import Conduit.Config.Environment
import Conduit.Proofs.Text.Spelling

/-! # Valid settings

Settings are valid when their names begin with something that is fit for a thread's name and their
stacks are not too small (`Conduit.WorkerConfig.Valid`). Of settings that are not, the first fault
in the order of the fields is reported (`Conduit.WorkerConfig.validate_decides`).

The texts that variables give for a size and for a policy are decided likewise
(`Conduit.Environment.parseStackSize_decides`, `Conduit.CancellationPolicy.parse_decides`).
-/

namespace Conduit

namespace WorkerConfig

/-- The settings are fit for use. -/
structure Valid (config : WorkerConfig) : Prop where
  named : ∃ c ∈ config.namePrefix.toList, Text.isBlank c = false
  nulFree : '\x00' ∉ config.namePrefix.toList
  roomy : ∀ size, config.stackSize = some size → 65536 ≤ size

/-- The first thing wrong with settings, in the order of the fields. -/
inductive Faulty (config : WorkerConfig) : ConfigFault → Prop
  | blankPrefix (blank : ∀ c ∈ config.namePrefix.toList, Text.isBlank c = true) :
      Faulty config .blankPrefix
  | nulInPrefix (named : ∃ c ∈ config.namePrefix.toList, Text.isBlank c = false)
      (nul : '\x00' ∈ config.namePrefix.toList) : Faulty config .nulInPrefix
  | smallStack {size : Nat} (named : ∃ c ∈ config.namePrefix.toList, Text.isBlank c = false)
      (nulFree : '\x00' ∉ config.namePrefix.toList) (sized : config.stackSize = some size)
      (small : size < 65536) : Faulty config (.smallStack size)

/-- A prefix is named when trimming leaves something of it. -/
theorem named_iff {name : String} :
    (∃ c ∈ name.toList, Text.isBlank c = false) ↔ ¬ (Text.trim name).isEmpty = true := by
  rw [Text.isEmpty_trim_iff]
  push Not
  simp only [Bool.not_eq_true]

theorem Valid.validate {config : WorkerConfig} (valid : config.Valid) :
    config.validate = .ok () := by
  obtain ⟨named, nulFree, roomy⟩ := valid
  rw [WorkerConfig.validate, if_neg (named_iff.mp named), if_neg (by simpa using nulFree)]
  cases sized : config.stackSize with
  | none => rfl
  | some size => exact if_neg (Nat.not_lt.mpr (roomy size sized))

theorem Faulty.validate {config : WorkerConfig} {fault : ConfigFault}
    (faulty : config.Faulty fault) : config.validate = .error fault := by
  cases faulty with
  | blankPrefix blank => rw [WorkerConfig.validate, if_pos (Text.isEmpty_trim_iff.mpr blank)]
  | nulInPrefix named nul =>
      rw [WorkerConfig.validate, if_neg (named_iff.mp named), if_pos (by simpa using nul)]
  | smallStack named nulFree sized small =>
      rw [WorkerConfig.validate, if_neg (named_iff.mp named), if_neg (by simpa using nulFree),
        sized]
      exact if_pos small

theorem valid_or_faulty (config : WorkerConfig) :
    config.Valid ∨ ∃ fault, config.Faulty fault := by
  by_cases named : ∃ c ∈ config.namePrefix.toList, Text.isBlank c = false
  · by_cases nul : '\x00' ∈ config.namePrefix.toList
    · exact .inr ⟨_, .nulInPrefix named nul⟩
    · by_cases roomy : ∀ size, config.stackSize = some size → 65536 ≤ size
      · exact .inl ⟨named, nul, roomy⟩
      · push Not at roomy
        obtain ⟨size, sized, small⟩ := roomy
        exact .inr ⟨_, .smallStack named nul sized small⟩
  · exact .inr ⟨_, .blankPrefix (by simpa using named)⟩

/-- **Valid settings pass, and no others**; these are refused for the first fault. -/
theorem validate_decides (config : WorkerConfig) :
    Decides config.validate (fun _ => config.Valid) config.Faulty :=
  .of_total (fun _ => Valid.validate) (fun _ => Faulty.validate)
    (config.valid_or_faulty.imp_left fun valid => ⟨(), valid⟩)

theorem valid_standard : ({} : WorkerConfig).Valid where
  named := ⟨'m', by decide, rfl⟩
  nulFree := by decide
  roomy := nofun

end WorkerConfig

/-! ## Sizes and policies in texts -/

namespace Environment

/-- A variable gives this size of a stack. -/
def GivesSize (text : String) (size : Nat) : Prop :=
  ∃ core, Text.Trims text core ∧ Text.Writes core size

/-- A variable is refused as a size of a stack. -/
def RefusesSize (text : String) (fault : ConfigFault) : Prop :=
  ∃ core cause, Text.Trims text core ∧ Text.Misspells core cause ∧
    fault = .badStackText text cause

theorem parseStackSize_decides (text : String) :
    Decides (parseStackSize text) (GivesSize text) (RefusesSize text) :=
  ((Text.parseNat64_decides _).mapError _).congr
    (fun size => by simp [GivesSize, Text.trims_iff])
    (fun fault => by simp [RefusesSize, Text.trims_iff])

end Environment

namespace CancellationPolicy

/-- The word that a text is compared as: trimmed, its ASCII letters in lower case, and underscores
for its hyphens. -/
def ComparedAs (text word : String) : Prop :=
  ∃ core, Text.Trims text core ∧
    word.toList = (core.map Char.toLower).map fun c => if c = '-' then '_' else c

/-- The text is the name of a policy. -/
inductive Names (text : String) : CancellationPolicy → Prop
  | none (word : ComparedAs text "none") : Names text .none
  | bestEffort (word : ComparedAs text "best_effort") : Names text .bestEffort

/-- The text is the name of no policy; it is reported as it was compared. -/
inductive Unknown (text : String) : ConfigFault → Prop
  | word {word : String} (compared : ComparedAs text word) (not_none : word ≠ "none")
      (not_bestEffort : word ≠ "best_effort") : Unknown text (.unknownPolicy word)

/-- No letter becomes a hyphen in lower case. -/
theorem toLower_eq_hyphen_iff {c : Char} : c.toLower = '-' ↔ c = '-' := by
  constructor
  · intro lower
    by_cases upper : c.val ≥ 'A'.val ∧ c.val ≤ 'Z'.val
    · have raised : c.toLower = _ := dif_pos upper
      have value := congrArg (fun d : Char => d.val.toNat) (raised.symm.trans lower)
      have above := UInt32.le_iff_toNat_le.mp upper.1
      have below := UInt32.le_iff_toNat_le.mp upper.2
      simp at value above below
      omega
    · have kept : c.toLower = c := dif_neg upper
      exact kept.symm.trans lower
  · rintro rfl
    rfl

/-- Hyphens may be replaced after lower case is taken, or before. -/
theorem plain_eq :
    (fun c => if c = '-' then '_' else c) ∘ Char.toLower =
      fun c => if c = '-' then '_' else c.toLower := by
  funext c
  simp only [Function.comp_apply, toLower_eq_hyphen_iff]

theorem comparedAs_iff {text word : String} :
    ComparedAs text word ↔
      (Text.trim text).map (fun c => if c = '-' then '_' else c.toLower) = word := by
  rw [← String.toList_inj, String.toList_map]
  simp only [ComparedAs, Text.trims_iff, List.map_map, plain_eq, exists_eq_left']
  exact eq_comm

theorem lookup_named (word : String) :
    named.lookup word =
      if word = "none" then some .none else if word = "best_effort" then some .bestEffort
      else Option.none := by
  by_cases none : word = "none"
  · subst none
    rfl
  · by_cases bestEffort : word = "best_effort"
    · subst bestEffort
      rfl
    · have other : (word == "none") = false ∧ (word == "best_effort") = false := by
        simp [none, bestEffort]
      simp [named, name, List.lookup_cons, none, bestEffort, other]

/-- **Just the names of policies are read**; every other text is reported as it was compared. -/
theorem parse_decides (text : String) :
    Decides (parse text) (Names text) (Unknown text) := by
  have compared : ComparedAs text _ := comparedAs_iff.mpr rfl
  refine .of_total ?_ ?_ ?_
  · rintro policy (word | word)
    · rw [parse]; simp [comparedAs_iff.mp word, lookup_named]
    · rw [parse]; simp [comparedAs_iff.mp word, lookup_named]
  · rintro fault ⟨word, not_none, not_bestEffort⟩
    rw [parse]; simp [comparedAs_iff.mp word, lookup_named, not_none, not_bestEffort]
  · by_cases none : ComparedAs text "none"
    · exact .inl ⟨_, .none none⟩
    · by_cases bestEffort : ComparedAs text "best_effort"
      · exact .inl ⟨_, .bestEffort bestEffort⟩
      · exact .inr ⟨_, .word compared (fun same => none (same ▸ compared))
          fun same => bestEffort (same ▸ compared)⟩

end CancellationPolicy

end Conduit
