import AttackSurface.Sensors.Observations

/-!
# Running a job (`asm_sensors/runner.py`)

What `execute_job` adds to the result of an adapter: a note on the targets that the egress
policy dropped.
-/

namespace AsmSensors

open PyText

/-- `_blocked_note`. -/
def blockedNote (blocked : List Str) : List Str :=
  if blocked = [] then []
  else
    [dec blocked.length ++ " target(s) not scanned by egress policy: ".toList ++
      "; ".toList.intercalate (blocked.take 10) ++
      (if 10 < blocked.length then "; and ".toList ++ dec (blocked.length - 10) ++ " more".toList else [])]

/-- The result of a job, with the targets that were dropped first among its errors. -/
def withBlocked {J : Type} (blocked : List Str) (result : SensorResult J) : SensorResult J :=
  { result with errors := blockedNote blocked ++ result.errors }

lemma isSpace_of_strip_eq_nil {s : Str} (h : strip s = []) : ∀ c ∈ s, isSpace c = true := by
  have hleft : ∀ c ∈ lstrip isSpace s, isSpace c = true := by
    simpa [strip, rstrip, List.rdropWhile_eq_nil_iff] using h
  cases hl : lstrip isSpace s with
  | nil => simpa [lstrip, List.dropWhile_eq_nil_iff] using hl
  | cons c rest =>
    -- the first character that is left is not blank
    have hhead : isSpace c = false := lstrip_head (s := s) (by rw [hl]; rfl)
    have hblank := hleft c (by rw [hl]; exact List.mem_cons_self)
    rw [hhead] at hblank
    cases hblank

lemma blockedNote_blank_iff {blocked : List Str} :
    (∀ line ∈ blockedNote blocked, strip line = []) ↔ blocked = [] := by
  unfold blockedNote
  split
  · next h => simp [h]
  next h =>
  refine iff_of_false (fun hblank => ?_) h
  have htext : 't' ∈ " target(s) not scanned by egress policy: ".toList := by decide +kernel
  have hspace := isSpace_of_strip_eq_nil (hblank _ List.mem_cons_self) 't'
    (List.mem_append_left _ (List.mem_append_left _ (List.mem_append_right _ htext)))
  exact absurd hspace (by decide)

end AsmSensors
