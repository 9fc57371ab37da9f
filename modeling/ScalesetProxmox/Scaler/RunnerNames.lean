import ScalesetProxmox.Pool.Program
import ScalesetProxmox.Text.Decimal

/-!
# Runner names

A runner is named after its VM: a constant text followed by the VMID. `vmidFromRunnerName` reads the VMID
back with `strconv.Atoi`, which refuses trailing garbage but accepts a plus sign and leading zeros. A name
that is so padded is no VM's name and is read as one. `runner_names_identify_iff` says that no other name
is misread.
-/

namespace ScalesetProxmox.Scaler

open Store (VMID)
open Text

variable {name start : String} {v : VMID}

def vmidFromRunnerName (name start : String) : Option VMID :=
  match cutPrefix name start with
  | none => none
  | some rest =>
    match atoi rest with
    | none => none
    | some vmid => if vmid ≤ 0 then none else some vmid.toNat

/-- The name that `allocateVMIDAndInsertRow` gives a VMID. -/
def runnerName (start : String) (v : VMID) : String := start ++ toString v

/-- The name with something between the constant text and the digits. -/
def paddedName (start : String) (plus : Bool) (zeros : ℕ) (v : VMID) : String :=
  start ++ (String.ofList (padding plus zeros) ++ toString v)

theorem paddedName_unpadded (start : String) (v : VMID) :
    paddedName start false 0 v = runnerName start v := by
  simp [paddedName, runnerName, padding]

theorem exists_rest_of_vmidFromRunnerName :
    vmidFromRunnerName name start = some v ↔
      0 < v ∧ ∃ rest, name = start ++ rest ∧ atoi rest = some (v : ℤ) := by
  constructor
  · intro h
    unfold vmidFromRunnerName at h
    split at h
    · cases h
    next rest hrest =>
      split at h
      · cases h
      next vmid hvmid =>
        split_ifs at h with hpos
        cases h
        have hvmid' : 0 < vmid := not_le.mp hpos
        refine ⟨Int.pos_iff_toNat_pos.mp hvmid', rest, cutPrefix_eq_some.mp hrest, ?_⟩
        rw [hvmid, Int.toNat_of_nonneg hvmid'.le]
  · rintro ⟨hv, rest, rfl, hrest⟩
    have hpos : ¬(v : ℤ) ≤ 0 := not_le.mpr (Int.natCast_pos.mpr hv)
    simp only [vmidFromRunnerName, cutPrefix_eq_some.mpr rfl, hrest, if_neg hpos, Int.toNat_natCast]

theorem vmidFromRunnerName_eq_some :
    vmidFromRunnerName name start = some v ↔
      0 < v ∧ v ≤ maxInt ∧ ∃ plus zeros, name = paddedName start plus zeros v := by
  rw [exists_rest_of_vmidFromRunnerName]
  apply and_congr_right
  intro hv
  constructor
  · rintro ⟨rest, rfl, hrest⟩
    obtain ⟨hmax, plus, zeros, hpadded⟩ := (atoi_eq_some_iff hv).mp hrest
    refine ⟨hmax, plus, zeros, ?_⟩
    rw [paddedName, Nat.toString_eq_ofList_toDigits, ← String.ofList_append, ← hpadded,
      String.ofList_toList]
  · rintro ⟨hmax, plus, zeros, rfl⟩
    refine ⟨_, rfl, (atoi_eq_some_iff hv).mpr ⟨hmax, plus, zeros, ?_⟩⟩
    rw [Nat.toString_eq_ofList_toDigits, ← String.ofList_append, String.toList_ofList]

/-- The name reads as a VMID that it is not the name of. -/
def Padded (start name : String) : Prop :=
  ∃ plus zeros v, (plus = true ∨ 0 < zeros) ∧ 0 < v ∧ v ≤ maxInt ∧ name = paddedName start plus zeros v

theorem eq_runnerName_of_not_padded (hplain : ¬Padded start name)
    (h : vmidFromRunnerName name start = some v) : name = runnerName start v := by
  obtain ⟨hv, hmax, plus, zeros, rfl⟩ := vmidFromRunnerName_eq_some.mp h
  have hnone : ¬(plus ∨ 0 < zeros) := fun hpadded ↦
    hplain ⟨plus, zeros, v, hpadded, hv, hmax, rfl⟩
  obtain rfl : plus = false := Bool.eq_false_iff.mpr fun hplus ↦ hnone (.inl hplus)
  obtain rfl : zeros = 0 := Nat.eq_zero_of_not_pos fun hzeros ↦ hnone (.inr hzeros)
  exact paddedName_unpadded start v

theorem paddedName_ne_runnerName {plus : Bool} {zeros : ℕ} (h : plus ∨ 0 < zeros) :
    paddedName start plus zeros v ≠ runnerName start v := by
  intro heq
  have hlength := congrArg String.length heq
  simp only [paddedName, runnerName, padding, String.length_append, String.length_ofList,
    List.length_append, List.length_replicate] at hlength
  rcases h with rfl | hzeros
  · rw [if_pos rfl, List.length_singleton] at hlength
    omega
  · omega

/-- A name is read as the VMID it is the name of, and as no other, unless it is padded; two names that
are read as one VMID are equal unless one of them is. -/
theorem runner_names_identify_iff (start name : String) :
    ((∀ v, vmidFromRunnerName name start = some v ↔
        0 < v ∧ v ≤ maxInt ∧ name = runnerName start v) ↔ ¬Padded start name) ∧
      ∀ other v, ¬Padded start name → ¬Padded start other →
        vmidFromRunnerName name start = some v → vmidFromRunnerName other start = some v →
          name = other := by
  refine ⟨⟨?_, fun hplain v ↦ ⟨fun h ↦ ?_, ?_⟩⟩, fun other v hplain hother hname hread ↦ ?_⟩
  · rintro hexact ⟨plus, zeros, v, hpadded, hv, hmax, rfl⟩
    have hread : vmidFromRunnerName (paddedName start plus zeros v) start = some v :=
      vmidFromRunnerName_eq_some.mpr ⟨hv, hmax, plus, zeros, rfl⟩
    exact paddedName_ne_runnerName hpadded ((hexact v).mp hread).2.2
  · obtain ⟨hv, hmax, _⟩ := vmidFromRunnerName_eq_some.mp h
    exact ⟨hv, hmax, eq_runnerName_of_not_padded hplain h⟩
  · rintro ⟨hv, hmax, rfl⟩
    exact vmidFromRunnerName_eq_some.mpr ⟨hv, hmax, false, 0, (paddedName_unpadded start v).symm⟩
  · rw [eq_runnerName_of_not_padded hplain hname, eq_runnerName_of_not_padded hother hread]

/-- Two names that are read as one VMID, and neither is its name. -/
theorem padded_names_misread :
    vmidFromRunnerName "gh-runner-ci-+10000" "gh-runner-ci-" = some 10000 ∧
      vmidFromRunnerName "gh-runner-ci-010000" "gh-runner-ci-" = some 10000 ∧
      "gh-runner-ci-+10000" ≠ runnerName "gh-runner-ci-" 10000 ∧
      "gh-runner-ci-010000" ≠ runnerName "gh-runner-ci-" 10000 := by
  decide +kernel

end ScalesetProxmox.Scaler
