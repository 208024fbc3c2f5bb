import QuadPort.Proofs.Program.Life

/-!
# Giving the handles back

A failed bring-up and a shutdown give the handles back in different orders. Either way the
calls fall into a part that gives nothing back and a few last calls that give each handle
back once, so `ReleasedOnce` is proved for those last calls and carried over to all.
-/

namespace QuadPort

namespace Call

/-- A handle that was given back is not used later. -/
def MayPrecede (earlier later : Call) : Prop :=
  (earlier.isBusRelease → ¬ later.isTransfer) ∧ (earlier.isLineRelease → ¬ later.isLineLevel)

def Keeps (call : Call) : Prop :=
  ¬ call.isBusRelease ∧ ¬ call.isLineRelease

theorem Keeps.mayPrecede {earlier : Call} (h : earlier.Keeps) (later : Call) :
    earlier.MayPrecede later :=
  ⟨fun hbus ↦ absurd hbus h.1, fun hline ↦ absurd hline h.2⟩

end Call

/-- A trace that gives each handle back once and does not use it afterwards. -/
structure ReleasedOnce (hasLine : Bool) (calls : List Call) : Prop where
  bus : calls.countP Call.isBusRelease = 1
  line : calls.countP Call.isLineRelease = if hasLine then 1 else 0
  unused : calls.Pairwise Call.MayPrecede

/-- Calls that give nothing back change nothing about the releases that follow. -/
theorem ReleasedOnce.append_left {hasLine : Bool} {calls rest : List Call}
    (hcalls : ∀ call ∈ calls, call.Keeps) (hrest : ReleasedOnce hasLine rest) :
    ReleasedOnce hasLine (calls ++ rest) where
  bus :=
    calc
      (calls ++ rest).countP Call.isBusRelease
      _ = calls.countP Call.isBusRelease + rest.countP Call.isBusRelease := List.countP_append
      _ = 1 := by
        rw [List.countP_eq_zero.mpr fun call hcall ↦ (hcalls call hcall).1, Nat.zero_add, hrest.bus]
  line :=
    calc
      (calls ++ rest).countP Call.isLineRelease
      _ = calls.countP Call.isLineRelease + rest.countP Call.isLineRelease := List.countP_append
      _ = if hasLine then 1 else 0 := by
        rw [List.countP_eq_zero.mpr fun call hcall ↦ (hcalls call hcall).2, Nat.zero_add,
          hrest.line]
  unused := by
    refine List.pairwise_append.mpr ⟨?_, hrest.unused, ?_⟩
    · exact List.pairwise_of_forall_mem_list fun earlier hearlier later _ ↦
        (hcalls earlier hearlier).mayPrecede later
    · exact fun earlier hearlier later _ ↦ (hcalls earlier hearlier).mayPrecede later

namespace Device

variable {device : Device} {calls : List Call}

theorem keeps_exchanges (exchanges : List Exchange) :
    ∀ call ∈ exchanges.map (Exchange.call device), call.Keeps := by
  intro call hcall
  obtain ⟨exchange, -, rfl⟩ := List.mem_map.mp hcall
  exact ⟨Bool.false_ne_true, Bool.false_ne_true⟩

theorem BroughtUp.keeps {result : Except Error Unit} (h : device.BroughtUp calls result) :
    ∀ call ∈ calls, call.Keeps := by
  cases h with
  | chip hchip => simp
  | line hchip hline => simp [Call.Keeps, Call.isBusRelease, Call.isLineRelease]
  | script hchip hpath =>
    intro call hcall
    rcases List.mem_append.mp hcall with hopening | hexchange
    · unfold opening at hopening
      split at hopening
      · simp_all [Call.Keeps, Call.isBusRelease, Call.isLineRelease]
      · cases hopening
    · exact keeps_exchanges _ call hexchange

theorem Released.releasedOnce (h : device.Released calls) : ReleasedOnce device.hasLine calls := by
  obtain ⟨line, bus, rfl⟩ := h
  cases device.hasLine with
  | false => exact ⟨rfl, rfl, by simp⟩
  | true =>
    exact ⟨rfl, rfl, by simp [Call.MayPrecede, Call.isBusRelease, Call.isLineRelease,
      Call.isTransfer, Call.isLineLevel]⟩

/-- A start that fails gives both handles back. -/
theorem Started.releasedOnce {error : Error} (h : device.Started calls (.error error)) :
    ReleasedOnce device.hasLine calls := by
  cases h with
  | failed h hreleased => exact .append_left h.keeps hreleased.releasedOnce

/-- A start that succeeds gives nothing back. -/
theorem Started.keeps (h : device.Started calls (.ok ())) : ∀ call ∈ calls, call.Keeps := by
  cases h with
  | ready h => exact h.keeps

/-- A shutdown gives both handles back, whatever fails. -/
theorem ShutDown.releasedOnce {result : Except Error Unit} (h : device.ShutDown calls result) :
    ReleasedOnce device.hasLine calls := by
  cases h with
  | @intro floats bus closing closed hfloats hclosed =>
    refine .append_left ?_ ?_
    · rw [← List.map_flatMap]
      exact keeps_exchanges _
    · unfold Closed at hclosed
      split at hclosed
      · rename_i hline
        obtain ⟨level, line, rfl, -⟩ := hclosed
        rw [hline]
        exact ⟨rfl, rfl, by simp [Call.MayPrecede, Call.isBusRelease, Call.isLineRelease,
          Call.isTransfer, Call.isLineLevel]⟩
      · rename_i hline
        obtain ⟨rfl, -⟩ := hclosed
        rw [Bool.not_eq_true] at hline
        rw [hline]
        exact ⟨rfl, rfl, by simp⟩

/-- Both handles are given back once in a life, whatever its start comes to. -/
theorem Lived.releasedOnce {started : Except Error Unit} (h : device.Lived calls started) :
    ReleasedOnce device.hasLine calls := by
  cases h with
  | failed hstarted => exact hstarted.releasedOnce
  | @ended up use down result hup huse hdown =>
    have hkeeps : ∀ call ∈ use, call.Keeps := by
      intro call hcall
      have htransfer := huse call hcall
      cases call with
      | transfer => exact ⟨Bool.false_ne_true, Bool.false_ne_true⟩
      | releaseBus | setLine | releaseLine => exact absurd htransfer Bool.false_ne_true
    exact .append_left hup.keeps (.append_left hkeeps hdown.releasedOnce)

end Device

end QuadPort
