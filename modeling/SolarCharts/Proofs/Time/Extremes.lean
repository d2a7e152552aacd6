import Mathlib.Data.List.Basic
import SolarCharts.Time.Instant

/-!
# The earliest and the latest of some instants

Instants are ordered by their seconds and then by their nanoseconds, and two of them that are neither
before nor after each other are the same. So the earliest and the latest of some instants are
determined by which instants there are, and not by how they are arranged.

* `foldl_choice_spec` — a fold that keeps one of two instants at every step keeps one of them all.
* `earliest_eq_some_iff`, `latest_eq_some_iff` — the earliest instant is one of them, and none is
  earlier; the latest is one of them, and none is later.
* `latest_of_perm` — the same instants in another order have the same latest.
-/

namespace SolarCharts.Instant

/-- Being no earlier goes on from one instant to the next. -/
theorem not_lt_trans {a b c : Instant} (hab : ¬ a < b) (hbc : ¬ b < c) : ¬ a < c := by
  rw [lt_iff] at *
  omega

/-- What is before an instant is before every one that is no earlier. -/
theorem lt_of_lt_of_not_lt {a b c : Instant} (hab : a < b) (hcb : ¬ c < b) : a < c := by
  rw [lt_iff] at *
  omega

/-- What is no later than an instant is before all that come after that. -/
theorem lt_of_not_lt_of_lt {a b c : Instant} (hba : ¬ b < a) (hbc : b < c) : a < c := by
  rw [lt_iff] at *
  omega

/-! ## Keeping one of two -/

/-- Where one of two instants is kept that reaches as far as both, a fold ends with one of its instants
that reaches as far as all. -/
theorem foldl_choice_spec {choose : Instant → Instant → Instant} {R : Instant → Instant → Prop}
    (hRefl : ∀ a, R a a) (hTrans : ∀ a b c, R a b → R b c → R a c)
    (hChoose : ∀ a b, (choose a b = a ∨ choose a b = b) ∧ R (choose a b) a ∧ R (choose a b) b)
    (time : Instant) (times : List Instant) :
    times.foldl choose time ∈ time :: times ∧
      ∀ other ∈ time :: times, R (times.foldl choose time) other := by
  induction times generalizing time with
  | nil => exact ⟨List.mem_cons_self, by simpa using hRefl time⟩
  | cons next times ih =>
    rw [List.foldl_cons]
    obtain ⟨hMem, hAll⟩ := ih (choose time next)
    obtain ⟨hEither, hTime, hNext⟩ := hChoose time next
    have hKept := hAll (choose time next) List.mem_cons_self
    refine ⟨?_, fun other hOther => ?_⟩
    · -- what is kept at the end was kept here, or comes from further on
      rcases List.mem_cons.mp hMem with hEq | hRest
      · rw [hEq]
        rcases hEither with hEither | hEither
        · rw [hEither]
          exact List.mem_cons_self
        · rw [hEither]
          exact List.mem_cons_of_mem _ List.mem_cons_self
      · exact List.mem_cons_of_mem _ (List.mem_cons_of_mem _ hRest)
    · -- what is kept at the end reaches as far as what was kept here, and that as far as both
      rcases List.mem_cons.mp hOther with rfl | hOther
      · exact hTrans _ _ _ hKept hTime
      · rcases List.mem_cons.mp hOther with rfl | hOther
        · exact hTrans _ _ _ hKept hNext
        · exact hAll other (List.mem_cons_of_mem _ hOther)

/-! ## The latest -/

/-- The later of two instants is one of them, and neither is later. -/
theorem later_spec (a b : Instant) :
    (later a b = a ∨ later a b = b) ∧ ¬ later a b < a ∧ ¬ later a b < b := by
  unfold later
  split
  · next hLater => exact ⟨Or.inr rfl, fun h => not_lt_self a (lt_trans hLater h), not_lt_self b⟩
  · next hLater => exact ⟨Or.inl rfl, not_lt_self a, hLater⟩

/-- The latest of some instants is the one of them that none is later than. -/
theorem latest_eq_some_iff {times : List Instant} {newest : Instant} :
    latest times = some newest ↔ newest ∈ times ∧ ∀ time ∈ times, ¬ newest < time := by
  cases times with
  | nil => simp [latest]
  | cons time times =>
    obtain ⟨hMem, hLast⟩ := foldl_choice_spec (R := fun a b => ¬ a < b) not_lt_self
      (fun _ _ _ => not_lt_trans) later_spec time times
    rw [latest, Option.some_inj]
    constructor
    · rintro rfl
      exact ⟨hMem, hLast⟩
    · rintro ⟨hMem', hLast'⟩
      -- two such instants are neither before nor after each other
      exact eq_of_not_lt (hLast _ hMem') (hLast' _ hMem)

/-- There is a latest instant unless there are none. -/
theorem latest_eq_none_iff {times : List Instant} : latest times = none ↔ times = [] := by
  cases times with
  | nil => simp [latest]
  | cons time times => simp [latest]

/-- The latest instant depends on which instants there are, not on their order. -/
theorem latest_of_perm {times times' : List Instant} (h : times.Perm times') :
    latest times = latest times' := by
  cases hNewest : latest times' with
  | none =>
    rw [latest_eq_none_iff] at hNewest ⊢
    rwa [hNewest, List.perm_nil] at h
  | some newest =>
    rw [latest_eq_some_iff] at hNewest ⊢
    exact ⟨h.mem_iff.mpr hNewest.1, fun time hTime => hNewest.2 time (h.mem_iff.mp hTime)⟩

/-! ## The earliest -/

/-- The earlier of two instants is one of them, and neither is earlier. -/
theorem earlier_spec (a b : Instant) :
    (earlier a b = a ∨ earlier a b = b) ∧ ¬ a < earlier a b ∧ ¬ b < earlier a b := by
  unfold earlier
  split
  · next hEarlier =>
    exact ⟨Or.inr rfl, fun h => not_lt_self a (lt_trans h hEarlier), not_lt_self b⟩
  · next hEarlier => exact ⟨Or.inl rfl, not_lt_self a, hEarlier⟩

/-- The earliest of some instants is the one of them that none is earlier than. -/
theorem earliest_eq_some_iff {times : List Instant} {oldest : Instant} :
    earliest times = some oldest ↔ oldest ∈ times ∧ ∀ time ∈ times, ¬ time < oldest := by
  cases times with
  | nil => simp [earliest]
  | cons time times =>
    obtain ⟨hMem, hFirst⟩ := foldl_choice_spec (R := fun a b => ¬ b < a) not_lt_self
      (fun _ _ _ hab hbc => not_lt_trans hbc hab) earlier_spec time times
    rw [earliest, Option.some_inj]
    constructor
    · rintro rfl
      exact ⟨hMem, hFirst⟩
    · rintro ⟨hMem', hFirst'⟩
      exact eq_of_not_lt (hFirst' _ hMem) (hFirst _ hMem')

end SolarCharts.Instant
