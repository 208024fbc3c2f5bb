import QuadPort.Config

/-!
# Range rules

What each rule asks of a configuration, in numbers. A configuration without a broken rule keeps
them all; the rule that is reported for another one is broken and all rules before it are kept.
-/

namespace QuadPort.Config

def Rule.Kept (config : Config) : Rule → Prop
  | .chip => config.device.chip.toNat ≤ 3
  | .bus => config.spi.bus.toNat ≤ 1
  | .select => config.spi.select.toNat ≤ 2
  | .clock => 1 ≤ config.spi.clock.toNat ∧ config.spi.clock.toNat ≤ 10000000
  | .pin => ∀ enable ∈ config.enable, enable.pin.toNat ≤ 27
  | .interval => 1 ≤ config.monitor.interval.toNat ∧ config.monitor.interval.toNat ≤ 60000
  | .level => config.logging.level ∈ ["trace", "debug", "info", "warn", "error"]

def Rule.place : Rule → Nat
  | .chip => 0
  | .bus => 1
  | .select => 2
  | .clock => 3
  | .pin => 4
  | .interval => 5
  | .level => 6

structure FirstBroken (config : Config) (rule : Rule) : Prop where
  broken : ¬ rule.Kept config
  earlier : ∀ other : Rule, other.place < rule.place → other.Kept config

variable {config : Config}

/-- A level has a name if it is one of the five. -/
theorem isSome_ofName? (name : String) :
    (Log.Level.ofName? name).isSome ↔ name ∈ ["trace", "debug", "info", "warn", "error"] := by
  change _ ↔ name ∈ Log.Level.all.map Log.Level.name
  rw [Log.Level.ofName?, List.find?_isSome, List.mem_map]
  simp only [beq_iff_eq]

theorem Rule.holds_iff (rule : Rule) : rule.holds config = true ↔ rule.Kept config := by
  cases rule with
  | chip | bus | select => exact decide_eq_true_iff.trans UInt8.le_iff_toNat_le
  | clock =>
    simp only [holds, Kept, Bool.and_eq_true, decide_eq_true_eq, UInt32.le_iff_toNat_le]
    rfl
  | pin =>
    cases henable : config.enable with
    | none => simp [holds, Kept, henable]
    | some enable => simp [holds, Kept, henable, UInt8.le_iff_toNat_le]
  | interval =>
    simp only [holds, Kept, Bool.and_eq_true, decide_eq_true_eq, UInt64.le_iff_toNat_le]
    rfl
  | level => exact isSome_ofName? _

theorem Rule.mem_all (rule : Rule) : rule ∈ Rule.all := by
  cases rule <;> decide

/-- A configuration is accepted if it keeps all rules. -/
theorem broken?_eq_none : config.broken? = none ↔ ∀ rule : Rule, rule.Kept config := by
  unfold broken?
  rw [List.find?_eq_none]
  constructor
  · intro h rule
    have hkept := h rule rule.mem_all
    rw [Bool.not_eq_true, Bool.not_eq_false'] at hkept
    exact rule.holds_iff.mp hkept
  · intro h rule _
    rw [Bool.not_eq_true, Bool.not_eq_false']
    exact rule.holds_iff.mpr (h rule)

theorem Rule.pairwise_all : Rule.all.Pairwise fun first second ↦ first.place < second.place := by
  decide

/-- The rule that is reported is the first one that is broken. -/
theorem firstBroken_of_broken? {rule : Rule} (h : config.broken? = some rule) :
    FirstBroken config rule := by
  obtain ⟨hbroken, front, back, hall, hfront⟩ := List.find?_eq_some_iff_append.mp h
  have hsorted := Rule.pairwise_all
  rw [hall, List.pairwise_append, List.pairwise_cons] at hsorted
  refine ⟨fun hkept ↦ ?_, fun other hplace ↦ ?_⟩
  · rw [rule.holds_iff.mpr hkept] at hbroken
    cases hbroken
  · have hmem := other.mem_all
    rw [hall, List.mem_append, List.mem_cons] at hmem
    rcases hmem with hearlier | rfl | hlater
    · have hholds := hfront other hearlier
      rw [Bool.not_not] at hholds
      exact other.holds_iff.mp hholds
    · exact absurd hplace (Nat.lt_irrefl _)
    · exact absurd hplace (Nat.lt_asymm (hsorted.2.1.1 other hlater))

/-- What the rules say about a configuration that a text was accepted as. -/
theorem kept_of_parse {text : String} (h : Config.parse text = .ok config) :
    ∀ rule : Rule, rule.Kept config := by
  unfold parse at h
  split at h
  · cases h
  · unfold accept at h
    split at h
    · cases h
    · split at h
      · cases h
      · rename_i hnone
        cases h
        exact broken?_eq_none.mp hnone

end QuadPort.Config
