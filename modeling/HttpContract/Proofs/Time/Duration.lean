import HttpContract.Time.Duration
import Mathlib.Logic.Basic

/-! Durations as numbers of nanoseconds: a sum exists exactly if the exact total is a duration, and
then it is that duration. -/
namespace HttpContract
namespace Duration

def greatest : Duration := { seconds := 18446744073709551615, nanos := 999999999 }

theorem totalNanos_injective {a b : Duration} (h : a.totalNanos = b.totalNanos) : a = b := by
  obtain ⟨seconds, nanos, _, small⟩ := a
  obtain ⟨seconds', nanos', _, small'⟩ := b
  simp only [totalNanos] at h
  obtain rfl : seconds = seconds' := by omega
  obtain rfl : nanos = nanos' := by omega
  rfl

@[simp]
theorem totalNanos_le (duration : Duration) : duration.totalNanos ≤ greatest.totalNanos := by
  have seconds := duration.seconds_lt
  have nanos := duration.nanos_lt
  simp only [totalNanos, greatest]
  omega

theorem exists_totalNanos {total : Nat} (h : total ≤ greatest.totalNanos) :
    ∃ duration : Duration, duration.totalNanos = total := by
  simp only [totalNanos, greatest] at h
  refine ⟨⟨total / 1000000000, total % 1000000000, by omega, by omega⟩, ?_⟩
  simp only [totalNanos]
  omega

theorem ofParts?_eq_some_iff {seconds nanos : Nat} {duration : Duration}
    (small : nanos < 1000000000) : ofParts? seconds nanos = some duration ↔
      duration.totalNanos = seconds * 1000000000 + nanos := by
  obtain ⟨seconds', nanos', bound, small'⟩ := duration
  simp only [ofParts?, totalNanos, Option.dite_none_right_eq_some, Option.some.injEq, mk.injEq]
  constructor
  · rintro ⟨-, rfl, rfl⟩
    rfl
  · intro same
    exact ⟨⟨by omega, small⟩, by omega, by omega⟩

@[simp] theorem add?_eq_some_iff {a b sum : Duration} :
    a.add? b = some sum ↔ sum.totalNanos = a.totalNanos + b.totalNanos := by
  have smallA := a.nanos_lt
  have smallB := b.nanos_lt
  simp only [add?]
  split
  · rw [ofParts?_eq_some_iff (by omega)]
    simp only [totalNanos]
    omega
  · rw [ofParts?_eq_some_iff (by omega)]
    simp only [totalNanos]
    omega

def exactSum : List Duration → Nat
  | [] => 0
  | duration :: durations => duration.totalNanos + exactSum durations

@[simp] theorem exactSum_append (durations others : List Duration) :
    exactSum (durations ++ others) = exactSum durations + exactSum others := by
  induction durations with
  | nil => exact (Nat.zero_add _).symm
  | cons duration durations ih => rw [List.cons_append, exactSum, ih, exactSum, Nat.add_assoc]

theorem exactSum_perm {durations others : List Duration} (h : durations.Perm others) :
    exactSum durations = exactSum others := by
  induction h with
  | nil => rfl
  | cons duration _ ih => rw [exactSum, ih, exactSum]
  | swap first second rest => simp only [exactSum, Nat.add_left_comm]
  | trans _ _ ih ih' => exact ih.trans ih'

theorem foldlM_add?_eq_some_iff {start sum : Duration} {durations : List Duration} :
    durations.foldlM add? start = some sum ↔
      sum.totalNanos = start.totalNanos + exactSum durations := by
  induction durations generalizing start with
  | nil =>
    simp only [List.foldlM_nil, Option.pure_def, Option.some.injEq, exactSum, Nat.add_zero]
    exact ⟨fun same => same ▸ rfl, fun same => (totalNanos_injective same).symm⟩
  | cons duration durations ih =>
    simp only [List.foldlM_cons, Option.bind_eq_bind, Option.bind_eq_some_iff, add?_eq_some_iff,
      ih, exactSum]
    constructor
    · rintro ⟨first, hf, hs⟩
      omega
    · intro hs
      have bound := sum.totalNanos_le
      have small : start.totalNanos + duration.totalNanos ≤ greatest.totalNanos := by omega
      obtain ⟨first, hf⟩ := exists_totalNanos small
      exact ⟨first, hf, by omega⟩

@[simp] theorem sum?_eq_some_iff {durations : List Duration} {sum : Duration} :
    sum? durations = some sum ↔ sum.totalNanos = exactSum durations := by
  rw [sum?, foldlM_add?_eq_some_iff]
  simp [zero, totalNanos]

end Duration
end HttpContract
