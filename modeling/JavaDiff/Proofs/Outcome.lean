import Mathlib.Data.List.Forall2

/-!
# Lists of outcomes

A list of steps that may fail succeeds as a whole exactly when every step does, with the results in
the order of the steps.
-/

namespace JavaDiff

instance decidableEqOutcome {α ε : Type} [DecidableEq α] [DecidableEq ε] :
    DecidableEq (Except ε α)
  | .error left, .error right =>
    decidable_of_iff (left = right) ⟨congrArg Except.error, Except.error.inj⟩
  | .ok left, .ok right => decidable_of_iff (left = right) ⟨congrArg Except.ok, Except.ok.inj⟩
  | .error _, .ok _ => isFalse nofun
  | .ok _, .error _ => isFalse nofun

variable {α β ε : Type} {step : α → Except ε β} {list : List α} {results : List β}

theorem mapM_eq_ok_iff : list.mapM step = .ok results ↔ list.map step = results.map .ok := by
  induction list generalizing results with
  | nil => cases results <;> simp [pure, Except.pure]
  | cons first list ih =>
    rw [List.mapM_cons, List.map_cons]
    cases hfirst : step first with
    | error error => cases results <;> simp [bind, Except.bind]
    | ok result =>
      cases hrest : list.mapM step with
      | error error =>
        have hnone (others : List β) : list.map step ≠ others.map .ok := fun hothers => by
          rw [ih.mpr hothers] at hrest
          contradiction
        cases results <;> simp [bind, Except.bind, hnone]
      | ok others =>
        rw [ih] at hrest
        cases results with
        | nil => simp [bind, Except.bind, pure, Except.pure]
        | cons last results =>
          simp only [bind, Except.bind, pure, Except.pure, hrest, List.map_cons, List.cons.injEq,
            Except.ok.injEq]
          rw [List.map_inj_right fun _ _ hequal => Except.ok.inj hequal]

theorem exists_of_mapM_eq_error {error : ε} (hfailed : list.mapM step = .error error) :
    ∃ value ∈ list, step value = .error error := by
  induction list with
  | nil => cases hfailed
  | cons first list ih =>
    rw [List.mapM_cons] at hfailed
    cases hfirst : step first with
    | error cause =>
      rw [hfirst] at hfailed
      obtain rfl : cause = error := Except.error.inj hfailed
      exact ⟨first, List.mem_cons_self, hfirst⟩
    | ok result =>
      rw [hfirst] at hfailed
      cases hrest : list.mapM step with
      | error cause =>
        rw [hrest] at hfailed
        obtain rfl : cause = error := Except.error.inj hfailed
        obtain ⟨value, hvalue, hcause⟩ := ih hrest
        exact ⟨value, List.mem_cons_of_mem first hvalue, hcause⟩
      | ok results =>
        rw [hrest] at hfailed
        cases hfailed

theorem mapM_map_result {γ : Type} (step : α → Except ε β) (f : β → γ) (list : List α) :
    (list.mapM fun value => (step value).map f) = (list.mapM step).map (List.map f) := by
  induction list with
  | nil => rfl
  | cons first list ih =>
    rw [List.mapM_cons, List.mapM_cons, ih]
    cases step first with
    | error error => rfl
    | ok result =>
      cases list.mapM step with
      | error error => rfl
      | ok results => rfl

/-- A step whose results are those of another step after a function has the list of results after that
function. -/
theorem mapM_eq_ok_map {γ : Type} {other : α → Except ε γ} {f : β → γ}
    (hresults : list.mapM step = .ok results)
    (hother : ∀ value ∈ list, ∀ result, step value = .ok result → other value = .ok (f result)) :
    list.mapM other = .ok (results.map f) := by
  rw [mapM_eq_ok_iff] at hresults ⊢
  induction list generalizing results with
  | nil =>
    obtain rfl := List.map_eq_nil_iff.mp hresults.symm
    rfl
  | cons first list ih =>
    obtain ⟨result, results, rfl, hresult, hresults⟩ := List.map_eq_cons_iff.mp hresults.symm
    have hfirst := hother first List.mem_cons_self result hresult.symm
    have hrest := ih hresults.symm fun value hvalue => hother value (List.mem_cons_of_mem _ hvalue)
    rw [List.map_cons, List.map_cons, List.map_cons, hfirst, hrest]

/-- Steps that all succeed have a list of results. -/
theorem exists_map_eq_map_ok (hstep : ∀ value ∈ list, ∃ result, step value = .ok result) :
    ∃ results : List β, list.map step = results.map .ok := by
  induction list with
  | nil => exact ⟨[], rfl⟩
  | cons first list ih =>
    obtain ⟨result, hresult⟩ := hstep first List.mem_cons_self
    obtain ⟨results, hresults⟩ := ih fun value hvalue => hstep value (List.mem_cons_of_mem _ hvalue)
    exact ⟨result :: results, by rw [List.map_cons, List.map_cons, hresult, hresults]⟩

theorem exists_of_mem_results (hresults : list.map step = results.map .ok) {result : β}
    (hresult : result ∈ results) : ∃ value ∈ list, step value = .ok result := by
  have hmem : Except.ok result ∈ results.map (Except.ok (ε := ε)) := List.mem_map_of_mem hresult
  rw [← hresults] at hmem
  exact List.mem_map.mp hmem

theorem mem_results_of_eq_ok (hresults : list.map step = results.map .ok) {value : α} {result : β}
    (hvalue : value ∈ list) (hresult : step value = .ok result) : result ∈ results := by
  have hmem : step value ∈ list.map step := List.mem_map_of_mem hvalue
  rw [hresults, hresult] at hmem
  obtain ⟨other, hother, hequal⟩ := List.mem_map.mp hmem
  exact Except.ok.inj hequal ▸ hother

theorem map_filter_results {property : α → Bool} {view : β → Bool}
    (hresults : list.map step = results.map .ok)
    (hview : ∀ value ∈ list, ∀ result, step value = .ok result → view result = property value) :
    (list.filter property).map step = (results.filter view).map .ok := by
  induction list generalizing results with
  | nil =>
    obtain rfl := List.map_eq_nil_iff.mp hresults.symm
    rfl
  | cons first list ih =>
    obtain ⟨result, results, rfl, hresult, hresults⟩ := List.map_eq_cons_iff.mp hresults.symm
    have hfirst := hview first List.mem_cons_self result hresult.symm
    have hrest := ih hresults.symm fun value hvalue =>
      hview value (List.mem_cons_of_mem first hvalue)
    rw [List.filter_cons, List.filter_cons, hfirst]
    split
    · rw [List.map_cons, List.map_cons, hrest, hresult]
    · exact hrest

theorem filterMap_id_results {step : α → Except ε (Option β)} {results : List (Option β)}
    (hresults : list.map step = results.map .ok) :
    results.filterMap id = list.filterMap fun value => (step value).toOption.join := by
  induction list generalizing results with
  | nil =>
    obtain rfl := List.map_eq_nil_iff.mp hresults.symm
    rfl
  | cons first list ih =>
    obtain ⟨result, results, rfl, hresult, hresults⟩ := List.map_eq_cons_iff.mp hresults.symm
    rw [List.filterMap_cons, List.filterMap_cons, ih hresults.symm, ← hresult]
    rfl

/-- The results of two steps are related when those for each value are. -/
theorem forall₂_results {γ : Type} {other : α → Except ε γ} {others : List γ} {R : β → γ → Prop}
    (hresults : list.map step = results.map .ok) (hothers : list.map other = others.map .ok)
    (hrelated : ∀ value ∈ list, ∀ result second, step value = .ok result →
      other value = .ok second → R result second) : List.Forall₂ R results others := by
  induction list generalizing results others with
  | nil =>
    obtain rfl := List.map_eq_nil_iff.mp hresults.symm
    obtain rfl := List.map_eq_nil_iff.mp hothers.symm
    exact .nil
  | cons first list ih =>
    obtain ⟨result, results, rfl, hresult, hresults⟩ := List.map_eq_cons_iff.mp hresults.symm
    obtain ⟨second, others, rfl, hsecond, hothers⟩ := List.map_eq_cons_iff.mp hothers.symm
    have hfirst := hrelated first List.mem_cons_self result second hresult.symm hsecond.symm
    have hrest := ih hresults.symm hothers.symm fun value hvalue =>
      hrelated value (List.mem_cons_of_mem first hvalue)
    exact .cons hfirst hrest

/-- Two steps with results that agree in some view have lists of results that agree in it. -/
theorem map_results_eq_map_results {γ δ : Type} {other : α → Except ε γ} {others : List γ}
    {view : β → δ} {otherView : γ → δ} (hresults : list.map step = results.map .ok)
    (hothers : list.map other = others.map .ok)
    (hview : ∀ value ∈ list, ∀ result second, step value = .ok result → other value = .ok second →
      view result = otherView second) : results.map view = others.map otherView := by
  have hrelated := forall₂_results hresults hothers hview
  rw [← List.forall₂_eq_eq_eq, List.forall₂_map_left_iff, List.forall₂_map_right_iff]
  exact hrelated

end JavaDiff
