import QuadPort.Proofs.Program.Turn

/-!
# What an operation asks first

An operation whose argument is out of range asks the chip nothing. Every other operation but a
plain write asks for the value of a register first, and it comes to an end there if that read
fails.
-/

namespace QuadPort

open Register Channel

namespace Device.Operation

def address? : Operation → Option UInt8
  | .writeRegister address _ => some address
  | .readRegister address => some address
  | .updateRegister address _ _ => some address
  | _ => none

def refusal? (operation : Operation) : Option Argument :=
  match operation.channel?, operation.address? with
  | some channel, _ => if channel < channelCount then none else some (.channel channel)
  | none, some address => if address ≤ maxAddress then none else some (.register address)
  | none, none => none

/-- The register that an operation reads first; a plain write reads none. -/
def firstRead? : Operation → Option UInt8
  | .writeRegister _ _ => none
  | .readRegister address => some address
  | .updateRegister address _ _ => some address
  | .readFaults => some Name.overload.address
  | .level _ => some Name.level.address
  | .setLevel _ _ => some Name.setOut.address
  | .function _ => some Name.setOut.address
  | .setFunction _ wanted =>
    some (if wanted = .output then Name.setOut.address else Name.configOutput.address)
  | .limit _ => some Name.configLimit.address
  | .setLimit _ _ => some Name.configLimit.address
  | .setUp _ => some Name.configLimit.address
  | .snapshot => some Name.level.address

variable {operation : Operation}

theorem refusal_of_channel {channel : UInt8} (h : operation.channel? = some channel) :
    operation.refusal? = if channel < channelCount then none else some (.channel channel) := by
  rw [refusal?, h]

theorem refusal_of_address {address : UInt8} (h : operation.address? = some address) :
    operation.refusal? = if address ≤ maxAddress then none else some (.register address) := by
  have hchannel : operation.channel? = none := by
    cases operation <;> first | rfl | cases h
  rw [refusal?, hchannel, h]

end Device.Operation

namespace Script

variable {α β : Type} {device : Device} {exchanges : List Exchange}

def Opens (address : UInt8) (script : Script α) : Prop :=
  ∃ next, script = .ask (.read address) next

/-- A script that starts with a read ends there if the read fails. -/
theorem Path.of_opens {script : Script α} {address : UInt8} {result : Except Error α}
    (h : Path device script exchanges result) (hopens : Opens address script)
    (haddress : address ≤ maxAddress) :
    ∃ reply rest, exchanges = ⟨.read address, reply⟩ :: rest ∧
      ∀ error, (Access.read address).verdict device reply = .error error →
        rest = [] ∧ result = .error error := by
  obtain ⟨next, rfl⟩ := hopens
  cases h with
  | refused hrefused => exact absurd haddress (UInt8.not_le.mpr hrefused)
  | rejected _ hverdict =>
    refine ⟨_, [], rfl, fun error herror ↦ ⟨rfl, ?_⟩⟩
    cases hverdict.symm.trans herror
    rfl
  | accepted _ hverdict _ =>
    refine ⟨_, _, rfl, fun error herror ↦ ?_⟩
    cases hverdict.symm.trans herror

namespace Opens

variable {address : UInt8}

theorem bind {script : Script α} (h : Opens address script) (next : α → Script β) :
    Opens address (script >>= next) := by
  obtain ⟨rest, rfl⟩ := h
  exact ⟨_, rfl⟩

theorem onChannel {script : Script α} {channel : UInt8} (hchannel : channel < channelCount)
    (h : Opens address script) : Opens address (onChannel channel script) := by
  rw [Script.onChannel, if_pos hchannel]
  exact h

theorem readRegister (address : UInt8) : Opens address (readRegister address) :=
  ⟨_, rfl⟩

theorem updateRegister (address mask value : UInt8) :
    Opens address (updateRegister address mask value) :=
  ⟨_, rfl⟩

theorem readFaults : Opens Name.overload.address readFaults :=
  (readRegister _).bind _

theorem prepare : Opens Name.overload.address prepare :=
  readFaults.bind _

variable {channel : UInt8} (hchannel : channel < channelCount)

include hchannel

theorem level : Opens Name.level.address (level channel) :=
  onChannel hchannel ((readRegister _).bind _)

theorem setLevel (high : Bool) : Opens Name.setOut.address (setLevel channel high) :=
  onChannel hchannel (updateRegister _ _ _)

theorem function : Opens Name.setOut.address (function channel) :=
  onChannel hchannel ((readRegister _).bind _)

theorem limit : Opens Name.configLimit.address (limit channel) :=
  onChannel hchannel ((readRegister _).bind _)

theorem setLimit (limit : CurrentLimit) :
    Opens Name.configLimit.address (setLimit channel limit) :=
  onChannel hchannel (updateRegister _ _ _)

/-- An output keeps its mode, so its direction comes first. -/
theorem setFunction (wanted : Function) :
    Opens (if wanted = .output then Name.setOut.address else Name.configOutput.address)
      (setFunction channel wanted) := by
  cases wanted with
  | output => exact onChannel hchannel ((updateRegister _ _ _).bind _)
  | input | highZ => exact onChannel hchannel ((updateRegister _ _ _).bind _)

omit hchannel in
theorem setUp (setup : ChannelSetup) : Opens Name.configLimit.address (setUp setup) :=
  (((setLimit (by decide) _).bind _).bind _)

omit hchannel in
theorem snapshot : Opens Name.level.address snapshot :=
  (level (by decide)).bind _

end Opens

variable {operation : Device.Operation}

/-- The channel of an operation that is not refused is one of the four. -/
theorem channel_lt_of_refusal {channel : UInt8} (h : operation.refusal? = none)
    (hchannel : operation.channel? = some channel) : channel < channelCount := by
  rw [Device.Operation.refusal_of_channel hchannel] at h
  by_contra hlt
  exact absurd (h.symm.trans (if_neg hlt)) nofun

/-- The register of an operation that is not refused is one that there can be. -/
theorem address_le_of_refusal {address : UInt8} (h : operation.refusal? = none)
    (haddress : operation.address? = some address) : address ≤ maxAddress := by
  rw [Device.Operation.refusal_of_address haddress] at h
  by_contra hle
  exact absurd (h.symm.trans (if_neg hle)) nofun

/-- An operation that is not refused and is no plain write opens with a read. -/
theorem opens_ofOperation {address : UInt8} (h : operation.refusal? = none)
    (hfirst : operation.firstRead? = some address) :
    Opens address (ofOperation operation) ∧ address ≤ maxAddress := by
  have hchannel : ∀ channel, operation.channel? = some channel → channel < channelCount :=
    fun _ ↦ channel_lt_of_refusal h
  have haddress : ∀ address, operation.address? = some address → address ≤ maxAddress :=
    fun _ ↦ address_le_of_refusal h
  cases operation with
  | writeRegister => cases hfirst
  | readRegister address =>
    cases hfirst
    exact ⟨(Opens.readRegister address).bind _, haddress _ rfl⟩
  | updateRegister address mask value =>
    cases hfirst
    exact ⟨(Opens.updateRegister address mask value).bind _, haddress _ rfl⟩
  | readFaults =>
    cases hfirst
    exact ⟨Opens.readFaults.bind _, by decide⟩
  | level channel =>
    cases hfirst
    exact ⟨(Opens.level (hchannel _ rfl)).bind _, by decide⟩
  | setLevel channel high =>
    cases hfirst
    exact ⟨(Opens.setLevel (hchannel _ rfl) high).bind _, by decide⟩
  | function channel =>
    cases hfirst
    exact ⟨(Opens.function (hchannel _ rfl)).bind _, by decide⟩
  | setFunction channel wanted =>
    cases hfirst
    refine ⟨(Opens.setFunction (hchannel _ rfl) wanted).bind _, ?_⟩
    cases wanted <;> decide
  | limit channel =>
    cases hfirst
    exact ⟨(Opens.limit (hchannel _ rfl)).bind _, by decide⟩
  | setLimit channel limit =>
    cases hfirst
    exact ⟨(Opens.setLimit (hchannel _ rfl) limit).bind _, by decide⟩
  | setUp setup =>
    cases hfirst
    exact ⟨(Opens.setUp setup).bind _, by decide⟩
  | snapshot =>
    cases hfirst
    exact ⟨Opens.snapshot.bind _, by decide⟩

/-- An operation on a register starts with an access to it. -/
theorem ask_of_address {address : UInt8} (h : operation.address? = some address) :
    ∃ access next, ofOperation operation = .ask access next ∧ access.address = address := by
  cases operation <;> cases h
  case writeRegister => exact ⟨.write _ _, _, rfl, rfl⟩
  case readRegister => exact ⟨.read _, _, rfl, rfl⟩
  case updateRegister => exact ⟨.read _, _, rfl, rfl⟩

/-- An operation that is refused fails at once, or at the address of its first access. -/
theorem ofOperation_of_refusal {argument : Argument} (h : operation.refusal? = some argument) :
    ofOperation operation = .fail (.invalidArgument argument) ∨
      ∃ access next, ofOperation operation = .ask access next ∧ maxAddress < access.address ∧
        argument = .register access.address := by
  cases hchannel : operation.channel? with
  | some channel =>
    rw [Device.Operation.refusal_of_channel hchannel] at h
    split at h <;> cases h
    rename_i hlt
    exact .inl (ofOperation_refused hchannel (UInt8.not_lt.mp hlt))
  | none =>
    cases haddress : operation.address? with
    | some address =>
      rw [Device.Operation.refusal_of_address haddress] at h
      split at h <;> cases h
      rename_i hle
      obtain ⟨access, next, hask, rfl⟩ := ask_of_address haddress
      exact .inr ⟨access, next, hask, UInt8.not_le.mp hle, rfl⟩
    | none =>
      rw [Device.Operation.refusal?, hchannel, haddress] at h
      cases h

/-- An operation that is refused makes no access. -/
theorem Path.of_refusal {argument : Argument} {result : Except Error Device.Outcome}
    (h : Path device (ofOperation operation) exchanges result)
    (hrefusal : operation.refusal? = some argument) :
    exchanges = [] ∧ result = .error (.invalidArgument argument) := by
  obtain hfail | ⟨access, next, hask, hlt, rfl⟩ := ofOperation_of_refusal hrefusal
  · rw [hfail] at h
    cases h
    exact ⟨rfl, rfl⟩
  · rw [hask] at h
    cases h with
    | refused => exact ⟨rfl, rfl⟩
    | rejected hle => exact absurd hle (UInt8.not_le.mpr hlt)
    | accepted hle => exact absurd hle (UInt8.not_le.mpr hlt)

/-- A plain write is one transfer, and it comes to what the transfer comes to. -/
theorem Path.of_writeRegister {address value : UInt8} {result : Except Error Device.Outcome}
    (h : Path device (ofOperation (.writeRegister address value)) exchanges result)
    (haddress : address ≤ maxAddress) :
    ∃ reply, exchanges = [⟨.write address value, reply⟩] ∧
      (reply.result = .ok () → result = .ok .done) := by
  cases h with
  | refused hrefused => exact absurd haddress (UInt8.not_le.mpr hrefused)
  | rejected _ hverdict =>
    refine ⟨_, rfl, fun hresult ↦ ?_⟩
    simp only [Access.verdict, hresult] at hverdict
    cases hverdict
  | accepted _ _ hrest =>
    cases hrest
    exact ⟨_, rfl, fun _ ↦ rfl⟩

end Script

end QuadPort
