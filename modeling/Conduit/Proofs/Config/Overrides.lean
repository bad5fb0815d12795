import Conduit.Config.File
import Conduit.Proofs.Config.Validity

/-! # Variables in the place of settings

Variables replace settings one after the other: the prefix of names, the size of stacks, the
policy. The first one that is at fault ends this, and the settings are left with those before it
replaced (`Conduit.Environment.replaces_in_turn`). So a failure can leave settings half replaced
(`Conduit.Environment.half_replaced`).

Settings from a file are accepted just when they are valid, every variable that is set can be read,
and they are valid with the variables in their place; otherwise the first of these that does not
hold is reported (`Conduit.WorkerConfig.accepts_just_valid`). This is so whatever the parsers of
the formats make of a file.
-/

namespace Conduit

namespace Environment

/-! ## One variable -/

section Variable

variable {β : Type} {parse : String → Except ConfigFault β} {Gives : String → β → Prop}
  {Refuses : String → ConfigFault → Prop}

/-- What a field holds when its variable has been taken over. -/
def takeOver (parse : String → Except ConfigFault β) (held : β) :
    Option String → Except ConfigFault β
  | none => .ok held
  | some text => parse text

/-- A field holds what its variable gives; where this is not set, the field is unchanged. -/
def Replaces (Gives : String → β → Prop) (given : Option String) (held left : β) : Prop :=
  match given with
  | none => left = held
  | some text => Gives text left

/-- A variable is set to a text that is refused. -/
def Refused (Refuses : String → ConfigFault → Prop) (given : Option String) (fault : ConfigFault) :
    Prop :=
  ∃ text, given = some text ∧ Refuses text fault

theorem takeOver_decides (decides : ∀ text, Decides (parse text) (Gives text) (Refuses text))
    (held : β) (given : Option String) :
    Decides (takeOver parse held given) (Replaces Gives given held) (Refused Refuses given) := by
  cases given with
  | none => exact ⟨by simp [takeOver, Replaces, eq_comm], by simp [takeOver, Refused]⟩
  | some text => exact (decides text).congr (fun _ => Iff.rfl) (by simp [Refused])

end Variable

/-- The text is the prefix. -/
def IsPrefix (text name : String) : Prop := name = text

theorem replaces_isPrefix {given : Option String} {held left : String} :
    Replaces IsPrefix given held left ↔ left = given.getD held := by
  cases given <;> rfl

/-- The text sets the size of stacks to the number that it gives. -/
def SetsSize (text : String) (size : Option Nat) : Prop := ∃ n, GivesSize text n ∧ size = some n

/-! ## All variables -/

/-- The settings with every variable that is set in the place of its field. -/
structure Merges (env : Environment) (config merged : WorkerConfig) : Prop where
  namePrefix : Replaces IsPrefix env.namePrefix config.namePrefix merged.namePrefix
  stackSize : Replaces SetsSize env.stackSize config.stackSize merged.stackSize
  cancellation :
    Replaces CancellationPolicy.Names env.cancellation config.cancellation merged.cancellation

/-- A variable is at fault, and the settings are left with the variables before it in the place
of their fields, and its own field and those behind it as they were. -/
inductive BreaksOff (env : Environment) (config : WorkerConfig) (fault : ConfigFault)
    (left : WorkerConfig) : Prop
  | atSize (refused : Refused RefusesSize env.stackSize fault)
      (namePrefix : Replaces IsPrefix env.namePrefix config.namePrefix left.namePrefix)
      (stackSize : left.stackSize = config.stackSize)
      (cancellation : left.cancellation = config.cancellation) : BreaksOff env config fault left
  | atPolicy (refused : Refused CancellationPolicy.Unknown env.cancellation fault)
      (namePrefix : Replaces IsPrefix env.namePrefix config.namePrefix left.namePrefix)
      (stackSize : Replaces SetsSize env.stackSize config.stackSize left.stackSize)
      (cancellation : left.cancellation = config.cancellation) : BreaksOff env config fault left

section Apply

variable (env : Environment) (config : WorkerConfig)

/-- The size of stacks when its variable has been taken over. -/
def sizeOver : Except ConfigFault (Option Nat) :=
  takeOver (fun text => (parseStackSize text).map some) config.stackSize env.stackSize

/-- The policy when its variable has been taken over. -/
def policyOver : Except ConfigFault CancellationPolicy :=
  takeOver CancellationPolicy.parse config.cancellation env.cancellation

theorem sizeOver_decides : Decides (env.sizeOver config)
    (Replaces SetsSize env.stackSize config.stackSize) (Refused RefusesSize env.stackSize) :=
  takeOver_decides (fun text => (parseStackSize_decides text).map some) _ _

theorem policyOver_decides : Decides (env.policyOver config)
    (Replaces CancellationPolicy.Names env.cancellation config.cancellation)
    (Refused CancellationPolicy.Unknown env.cancellation) :=
  takeOver_decides CancellationPolicy.parse_decides _ _

/-- The prefix is replaced first. -/
theorem apply_namePrefix :
    config.applyEnvironment env =
      WorkerConfig.applyEnvironment
        { config with namePrefix := env.namePrefix.getD config.namePrefix }
        { env with namePrefix := none } := by
  obtain ⟨named, sized, policed⟩ := env
  cases named <;> rfl

/-- Then the size of stacks is. -/
theorem apply_stackSize (unnamed : env.namePrefix = none) :
    config.applyEnvironment env = (match env.sizeOver config with
      | .error fault => (.error fault, config)
      | .ok size => WorkerConfig.applyEnvironment { config with stackSize := size }
          { env with stackSize := none }) := by
  obtain ⟨named, sized, policed⟩ := env
  cases unnamed
  cases sized with
  | none => rfl
  | some text =>
      rw [sizeOver, takeOver, WorkerConfig.applyEnvironment, override]
      dsimp only
      generalize parseStackSize text = outcome
      cases outcome <;> rfl

/-- The policy is replaced last. -/
theorem apply_cancellation (unnamed : env.namePrefix = none) (unsized : env.stackSize = none) :
    config.applyEnvironment env = (match env.policyOver config with
      | .error fault => (.error fault, config)
      | .ok policy => (.ok (), { config with cancellation := policy })) := by
  obtain ⟨named, sized, policed⟩ := env
  cases unnamed
  cases unsized
  cases policed with
  | none => rfl
  | some text =>
      rw [policyOver, takeOver, WorkerConfig.applyEnvironment, override]
      dsimp only
      generalize CancellationPolicy.parse text = outcome
      cases outcome <;> rfl

/-- The variables are taken over one after the other, up to the first that is at fault. -/
theorem applyEnvironment_eq :
    config.applyEnvironment env =
      let named := { config with namePrefix := env.namePrefix.getD config.namePrefix }
      match env.sizeOver config with
      | .error fault => (.error fault, named)
      | .ok size =>
          let sized := { named with stackSize := size }
          match env.policyOver config with
          | .error fault => (.error fault, sized)
          | .ok policy => (.ok (), { sized with cancellation := policy }) := by
  rw [apply_namePrefix, apply_stackSize _ _ rfl]
  dsimp only [sizeOver]
  generalize takeOver _ config.stackSize env.stackSize = size
  cases size with
  | error fault => rfl
  | ok size => exact apply_cancellation _ _ rfl rfl

end Apply

variable {env : Environment} {config : WorkerConfig}

theorem Merges.apply {merged : WorkerConfig}
    (merges : env.Merges config merged) : config.applyEnvironment env = (.ok (), merged) := by
  obtain ⟨namePrefix, stackSize, cancellation⟩ := merges
  rw [applyEnvironment_eq, (sizeOver_decides env config).ok_iff _ |>.mpr stackSize,
    (policyOver_decides env config).ok_iff _ |>.mpr cancellation,
    ← replaces_isPrefix.mp namePrefix]

theorem BreaksOff.apply {left : WorkerConfig} {fault : ConfigFault}
    (breaks : env.BreaksOff config fault left) :
    config.applyEnvironment env = (.error fault, left) := by
  obtain ⟨name, size, policy⟩ := left
  cases breaks with
  | atSize refused namePrefix stackSize cancellation =>
      cases stackSize
      cases cancellation
      rw [applyEnvironment_eq, (sizeOver_decides env config).error_iff _ |>.mpr refused,
        ← replaces_isPrefix.mp namePrefix]
  | atPolicy refused namePrefix stackSize cancellation =>
      cases cancellation
      rw [applyEnvironment_eq, (sizeOver_decides env config).ok_iff _ |>.mpr stackSize,
        (policyOver_decides env config).error_iff _ |>.mpr refused,
        ← replaces_isPrefix.mp namePrefix]

theorem merges_or_breaksOff (env : Environment) (config : WorkerConfig) :
    (∃ merged, env.Merges config merged) ∨ ∃ fault left, env.BreaksOff config fault left := by
  have named : Replaces IsPrefix env.namePrefix config.namePrefix _ := replaces_isPrefix.mpr rfl
  have sizes := sizeOver_decides env config
  have policies := policyOver_decides env config
  cases sized : env.sizeOver config with
  | error fault =>
      have refused := (sizes.error_iff fault).mp sized
      exact .inr ⟨fault, { config with namePrefix := _ }, .atSize refused named rfl rfl⟩
  | ok size =>
      have size_given := (sizes.ok_iff size).mp sized
      cases policed : env.policyOver config with
      | error fault =>
          have refused := (policies.error_iff fault).mp policed
          exact .inr ⟨fault, ⟨_, size, config.cancellation⟩, .atPolicy refused named size_given rfl⟩
      | ok policy =>
          have policy_given := (policies.ok_iff policy).mp policed
          exact .inl ⟨⟨_, size, policy⟩, named, size_given, policy_given⟩

/-- **Variables replace settings in turn.** When all of them can be read, each field whose variable
is set holds what this gives, and every other field is unchanged. When one is at fault, this is so
of the fields before its own, and its own field and those behind it are unchanged. -/
theorem replaces_in_turn (env : Environment) (config : WorkerConfig) :
    (∀ left, config.applyEnvironment env = (.ok (), left) ↔ env.Merges config left) ∧
      ∀ fault left,
        config.applyEnvironment env = (.error fault, left) ↔ env.BreaksOff config fault left := by
  rcases merges_or_breaksOff env config with ⟨merged, merges⟩ | ⟨fault, left, breaks⟩
  · refine ⟨fun left => ⟨fun same => ?_, Merges.apply⟩,
      fun fault left => ⟨fun other => ?_, BreaksOff.apply⟩⟩
    · cases merges.apply.symm.trans same
      exact merges
    · cases merges.apply.symm.trans other
  · refine ⟨fun left => ⟨fun other => ?_, Merges.apply⟩,
      fun fault left => ⟨fun same => ?_, BreaksOff.apply⟩⟩
    · cases breaks.apply.symm.trans other
    · cases breaks.apply.symm.trans same
      exact breaks

/-- **Settings can be left half replaced**: the size of stacks is refused when the prefix has been
replaced. -/
theorem half_replaced :
    ({} : WorkerConfig).applyEnvironment { namePrefix := some "fresh", stackSize := some "lots" } =
        (.error (.badStackText "lots" .invalidDigit), { namePrefix := "fresh" }) ∧
      ({ namePrefix := "fresh" } : WorkerConfig) ≠ {} := by
  decide +kernel

/-! ## Settings that are checked -/

/-- The first reason against settings with their variables: the settings alone, one of the
variables, or the settings with the variables in their place. -/
inductive Rejects (env : Environment) (config : WorkerConfig) (fault : ConfigFault) : Prop
  | settings (faulty : config.Faulty fault) : Rejects env config fault
  | size (valid : config.Valid) (refused : Refused RefusesSize env.stackSize fault) :
      Rejects env config fault
  | policy {size : Option Nat} (valid : config.Valid)
      (sized : Replaces SetsSize env.stackSize config.stackSize size)
      (refused : Refused CancellationPolicy.Unknown env.cancellation fault) :
      Rejects env config fault
  | merged {merged : WorkerConfig} (valid : config.Valid) (merges : env.Merges config merged)
      (faulty : merged.Faulty fault) : Rejects env config fault

theorem Merges.withEnvironment {merged : WorkerConfig} (merges : env.Merges config merged) :
    config.withEnvironment env = merged.validate.map fun _ => merged := by
  rw [WorkerConfig.withEnvironment, merges.apply]
  dsimp only
  cases merged.validate <;> rfl

theorem BreaksOff.withEnvironment {left : WorkerConfig} {fault : ConfigFault}
    (breaks : env.BreaksOff config fault left) : config.withEnvironment env = .error fault := by
  rw [WorkerConfig.withEnvironment, breaks.apply]
  rfl

theorem BreaksOff.rejects {left : WorkerConfig} {fault : ConfigFault}
    (breaks : env.BreaksOff config fault left) (valid : config.Valid) :
    env.Rejects config fault := by
  cases breaks with
  | atSize refused _ _ _ => exact .size valid refused
  | atPolicy refused _ sized _ => exact .policy valid sized refused

/-- Whatever is against settings that are valid alone is what taking the variables over reports. -/
theorem Rejects.withEnvironment {fault : ConfigFault} (rejects : env.Rejects config fault)
    (valid : config.Valid) : config.withEnvironment env = .error fault := by
  have named : Replaces IsPrefix env.namePrefix config.namePrefix _ := replaces_isPrefix.mpr rfl
  cases rejects with
  | settings faulty => cases valid.validate.symm.trans faulty.validate
  | size _ refused =>
      have breaks : BreaksOff env config fault { config with namePrefix := _ } :=
        .atSize refused named rfl rfl
      exact breaks.withEnvironment
  | @policy size _ sized refused =>
      have breaks : BreaksOff env config fault ⟨_, size, config.cancellation⟩ :=
        .atPolicy refused named sized rfl
      exact breaks.withEnvironment
  | merged _ merges faulty =>
      rw [merges.withEnvironment, faulty.validate]
      rfl

theorem Rejects.faulty_or_valid {fault : ConfigFault} (rejects : env.Rejects config fault) :
    config.Faulty fault ∨ config.Valid := by
  cases rejects with
  | settings faulty => exact .inl faulty
  | size valid => exact .inr valid
  | policy valid => exact .inr valid
  | merged valid => exact .inr valid

end Environment

namespace WorkerConfig

variable {config : WorkerConfig} {parse : ConfigParser} {path : String}
  {reading : Except String String}

theorem Valid.withEnvironment_decides (valid : config.Valid) (env : Environment) :
    Decides (config.withEnvironment env)
      (fun merged => config.Valid ∧ env.Merges config merged ∧ merged.Valid)
      (env.Rejects config) := by
  refine .of_total ?_ (fun fault rejects => rejects.withEnvironment valid) ?_
  · rintro merged ⟨_, merges, merged_valid⟩
    rw [merges.withEnvironment, merged_valid.validate]
    rfl
  · rcases Environment.merges_or_breaksOff env config with ⟨merged, merges⟩ | ⟨fault, _, breaks⟩
    · rcases merged.valid_or_faulty with merged_valid | ⟨fault, faulty⟩
      · exact .inl ⟨merged, valid, merges, merged_valid⟩
      · exact .inr ⟨fault, .merged valid merges faulty⟩
    · exact .inr ⟨fault, breaks.rejects valid⟩

/-- The file at a path has been read, and parsed as these settings. -/
def InFile (config : WorkerConfig) (parse : ConfigParser) (path : String)
    (reading : Except String String) : Prop :=
  ∃ text, reading = .ok text ∧ parse (.ofPath path) text = .ok config

theorem InFile.load (held : config.InFile parse path reading) :
    load parse path reading = config.validate.bind fun _ => .ok config := by
  obtain ⟨text, rfl, parsed⟩ := held
  have taken : (parse (.ofPath path) text).mapError
      (ConfigFault.unparsable (ConfigFormat.ofPath path).name) = .ok config := by rw [parsed]; rfl
  change (do
    let config ← (parse (.ofPath path) text).mapError _
    config.validate
    return config) = _
  rw [taken]
  exact pure_bind config fun config => config.validate.bind fun _ => .ok config

theorem InFile.loadWithEnvironment (held : config.InFile parse path reading) (env : Environment) :
    loadWithEnvironment parse path reading env =
      config.validate.bind fun _ => config.withEnvironment env := by
  rw [WorkerConfig.loadWithEnvironment, held.load]
  cases config.validate <;> rfl

theorem InFile.withEnvironment_decides (held : config.InFile parse path reading)
    (env : Environment) :
    Decides (WorkerConfig.loadWithEnvironment parse path reading env)
      (fun merged => config.Valid ∧ env.Merges config merged ∧ merged.Valid)
      (env.Rejects config) := by
  rw [held.loadWithEnvironment]
  refine (config.validate_decides.bind fun _ valid => valid.withEnvironment_decides env).congr ?_ ?_
  · simp
  · intro fault
    constructor
    · rintro (faulty | ⟨_, _, rejects⟩)
      · exact .settings faulty
      · exact rejects
    · intro rejects
      exact rejects.faulty_or_valid.imp_right fun valid => ⟨(), valid, rejects⟩

theorem valid_of_withEnvironment {env : Environment} {accepted : WorkerConfig}
    (accepts : config.withEnvironment env = .ok accepted) : accepted.Valid := by
  rcases Environment.merges_or_breaksOff env config with ⟨merged, merges⟩ | ⟨fault, _, breaks⟩
  · rw [merges.withEnvironment] at accepts
    obtain ⟨_, valid, rfl⟩ := (merged.validate_decides.map fun _ => merged).ok_iff _ |>.mp accepts
    exact valid
  · cases breaks.withEnvironment.symm.trans accepts

theorem valid_of_loadWithEnvironment {env : Environment} {accepted : WorkerConfig}
    (accepts : loadWithEnvironment parse path reading env = .ok accepted) : accepted.Valid := by
  rw [WorkerConfig.loadWithEnvironment] at accepts
  cases read : WorkerConfig.load parse path reading with
  | error fault =>
      rw [read] at accepts
      cases accepts
  | ok config =>
      rw [read] at accepts
      exact valid_of_withEnvironment accepts

/-- **Accepted settings are just the valid ones.** Whatever the parsers of documents are, settings
from a file are accepted when they are valid, each variable that is set can be read, and they are
valid with the variables in place of their fields: this is what is accepted. Otherwise the first of
these that does not hold is reported. It is the same with the standard settings when there is no
file. So whatever is accepted passes the check of settings. -/
theorem accepts_just_valid (parse : ConfigParser) (env : Environment) :
    (∀ path reading config, InFile config parse path reading →
      Decides ((loadWithEnvironment parse path reading env).mapError ConfigFault.toError)
        (fun accepted => config.Valid ∧ env.Merges config accepted ∧ accepted.Valid)
        (fun e => ∃ fault, env.Rejects config fault ∧ e = .configuration fault.message)) ∧
    Decides ((ofEnvironment env).mapError ConfigFault.toError)
      (fun accepted => Valid {} ∧ env.Merges {} accepted ∧ accepted.Valid)
      (fun e => ∃ fault, env.Rejects {} fault ∧ e = .configuration fault.message) ∧
    ∀ accepted,
      (∃ path reading, loadWithEnvironment parse path reading env = .ok accepted) ∨
        ofEnvironment env = .ok accepted →
      accepted.validate = .ok () := by
  refine ⟨?_, ?_, ?_⟩
  · intro path reading config held
    exact (held.withEnvironment_decides env).mapError _
  · exact (valid_standard.withEnvironment_decides env).mapError _
  · rintro accepted (⟨path, reading, accepts⟩ | accepts)
    · exact (valid_of_loadWithEnvironment accepts).validate
    · exact (valid_of_withEnvironment accepts).validate

/-- Parsers that know one YAML document, a setting of the size of stacks, and no TOML. -/
def poolParser : ConfigParser
  | .yaml, text =>
      if text = "worker_stack_size: 70000\n" then .ok { stackSize := some 70000 }
      else .error "unknown document"
  | .toml, _ => .error "unknown document"

/-- A size from a file, with a prefix and a policy from the environment. -/
theorem accepts_just_valid_pool :
    InFile { stackSize := some 70000 } poolParser "pool.yaml" (.ok "worker_stack_size: 70000\n") ∧
      (loadWithEnvironment poolParser "pool.yaml" (.ok "worker_stack_size: 70000\n")
          { namePrefix := some "fan-out", cancellation := some " Best-Effort " }).mapError
          ConfigFault.toError =
        .ok ⟨"fan-out", some 70000, .bestEffort⟩ ∧
      validate ⟨"fan-out", some 70000, .bestEffort⟩ = .ok () := by
  have held : InFile { stackSize := some 70000 } poolParser "pool.yaml"
      (.ok "worker_stack_size: 70000\n") := ⟨_, rfl, by decide +kernel⟩
  have config_valid : Valid { stackSize := some 70000 } :=
    ⟨⟨'m', by decide, rfl⟩, by decide, by rintro size ⟨⟩; decide⟩
  have merged_valid : Valid ⟨"fan-out", some 70000, .bestEffort⟩ :=
    ⟨⟨'f', by decide, rfl⟩, by decide, by rintro size ⟨⟩; decide⟩
  have compared : CancellationPolicy.ComparedAs " Best-Effort " "best_effort" :=
    CancellationPolicy.comparedAs_iff.mpr (by decide +kernel)
  obtain ⟨fromFile, -, passes⟩ := accepts_just_valid poolParser
    { namePrefix := some "fan-out", cancellation := some " Best-Effort " }
  have merges : Environment.Merges
      { namePrefix := some "fan-out", cancellation := some " Best-Effort " }
      { stackSize := some 70000 } ⟨"fan-out", some 70000, .bestEffort⟩ :=
    ⟨rfl, rfl, .bestEffort compared⟩
  have accepts := (held.withEnvironment_decides _).ok_iff _ |>.mpr
    ⟨config_valid, merges, merged_valid⟩
  exact ⟨held, (fromFile _ _ _ held).ok_iff _ |>.mpr ⟨config_valid, merges, merged_valid⟩,
    passes _ (.inl ⟨_, _, accepts⟩)⟩

end WorkerConfig

end Conduit
