import QueryCursor.Source

/-!
# Simulation

Two actions simulate each other under a relation on scenes when, begun in related
scenes, they end alike and in related scenes again.  Simulations are composed
along the structure of the actions.
-/

namespace QueryCursor

variable {σ ρ α β γ δ : Type}

/-- Two outcomes that are the same fault, or values that belong together. -/
inductive Agree (same : α → β → Prop) : Except Fault α → Except Fault β → Prop where
  | ok {left : α} {right : β} : same left right → Agree same (.ok left) (.ok right)
  | error (fault : Fault) : Agree same (.error fault) (.error fault)

theorem Agree.of_eq {left right : Except Fault α} (equal : left = right) :
    Agree Eq left right := by
  subst equal
  cases left with
  | ok => exact .ok rfl
  | error fault => exact .error fault

theorem Agree.eq {left right : Except Fault α} (agree : Agree Eq left right) : left = right := by
  cases agree with
  | ok same => rw [same]
  | error => rfl

/-- Outcomes that agree still do so after values that belong together were mapped
to such values. -/
theorem Agree.map {same : α → β → Prop} {also : γ → δ → Prop} {left : Except Fault α}
    {right : Except Fault β} (agree : Agree same left right) {first : α → γ} {second : β → δ}
    (kept : ∀ left right, same left right → also (first left) (second right)) :
    Agree also (left.map first) (right.map second) := by
  cases agree with
  | ok belong => exact .ok (kept _ _ belong)
  | error fault => exact .error fault

/-- Whether outcomes agree in that they are a value or the same fault is not changed
by what is made of the value. -/
theorem Agree.mapRight {left : Except Fault α} {right : Except Fault β}
    (agree : Agree (fun _ _ => True) left right) (make : β → γ) :
    Agree (fun _ _ => True) left (right.map make) := by
  cases agree with
  | ok => exact .ok trivial
  | error fault => exact .error fault

/-- Two actions that end alike and in related scenes, when begun in related ones. -/
def Simulates (related : Scene σ → Scene ρ → Prop) (same : α → β → Prop)
    (first : Action σ α) (second : Action ρ β) : Prop :=
  ∀ left right, related left right →
    Agree same (first.run left).1 (second.run right).1 ∧
      related (first.run left).2 (second.run right).2

namespace Simulates

variable {related : Scene σ → Scene ρ → Prop} {same : α → β → Prop}
  {also : γ → δ → Prop}

theorem result {left : α} {right : β} (belong : same left right) :
    Simulates related same (pure left) (pure right) :=
  fun _ _ relate => ⟨.ok belong, relate⟩

theorem refusal {fault : Fault} :
    Simulates related same (throw fault) (throw fault) :=
  fun _ _ relate => ⟨.error fault, relate⟩

theorem ofExcept {left : Except Fault α} {right : Except Fault β} (agree : Agree same left right) :
    Simulates related same (Action.ofExcept left) (Action.ofExcept right) :=
  fun _ _ relate => ⟨agree, relate⟩

theorem bind {first : Action σ α} {second : Action ρ β}
    {firstRest : α → Action σ γ} {secondRest : β → Action ρ δ}
    (begun : Simulates related same first second)
    (rest : ∀ left right, same left right →
      Simulates related also (firstRest left) (secondRest right)) :
    Simulates related also (first >>= firstRest) (second >>= secondRest) := by
  intro left right relate
  obtain ⟨agree, relate⟩ := begun left right relate
  rw [Action.run_bind, Action.run_bind]
  rcases ran : first.run left with ⟨outcome, between⟩
  rcases ran' : second.run right with ⟨outcome', between'⟩
  rw [ran, ran'] at agree relate
  cases agree with
  | ok belong => exact rest _ _ belong _ _ relate
  | error fault => exact ⟨.error fault, relate⟩

theorem seq {first : Action σ α} {second : Action ρ α}
    {firstRest : α → Action σ γ} {secondRest : α → Action ρ δ}
    (begun : Simulates related Eq first second)
    (rest : ∀ value, Simulates related also (firstRest value) (secondRest value)) :
    Simulates related also (first >>= firstRest) (second >>= secondRest) := by
  apply begun.bind
  rintro value _ rfl
  exact rest value

theorem map {first : Action σ α} {second : Action ρ α} (begun : Simulates related Eq first second)
    (make : α → γ) : Simulates related Eq (make <$> first) (make <$> second) := by
  rw [map_eq_pure_bind, map_eq_pure_bind]
  exact begun.seq fun _ => .result rfl

theorem refuseIf {condition condition' : Prop} [Decidable condition] [Decidable condition']
    {fault : Fault} {first : Unit → Action σ α} {second : Unit → Action ρ β}
    (together : condition ↔ condition')
    (otherwise : Simulates related same (first ()) (second ())) :
    Simulates related same (if condition then throw fault >>= first else first ())
      (if condition' then throw fault >>= second else second ()) := by
  by_cases holds : condition
  · rw [if_pos holds, if_pos (together.mp holds)]
    exact fun _ _ relate => ⟨.error fault, relate⟩
  · rw [if_neg holds, if_neg (mt together.mpr holds)]
    exact otherwise

theorem choose {condition condition' : Prop} [Decidable condition] [Decidable condition']
    {first first' : Action σ α} {second second' : Action ρ β}
    (together : condition ↔ condition')
    (one : Simulates related same first second) (other : Simulates related same first' second') :
    Simulates related same (if condition then first else first')
      (if condition' then second else second') := by
  by_cases holds : condition
  · rw [if_pos holds, if_pos (together.mp holds)]
    exact one
  · rw [if_neg holds, if_neg (mt together.mpr holds)]
    exact other

end Simulates

/-- Runs from related scenes are seen to be the same where every action is, and leads to
related scenes again. -/
theorem Action.runAll_eq {ι : Type} {related : Scene σ → Scene ρ → Prop} {first : ι → Action σ α}
    {second : ι → Action ρ β} {seen : Except Fault α × Scene σ → γ}
    {seen' : Except Fault β × Scene ρ → γ} {labels : List ι}
    (each : ∀ label ∈ labels, ∀ left right, related left right →
      seen ((first label).run left) = seen' ((second label).run right) ∧
        related ((first label).run left).2 ((second label).run right).2)
    {left : Scene σ} {right : Scene ρ} (relate : related left right) :
    (runAll (labels.map first) left).map seen = (runAll (labels.map second) right).map seen' := by
  induction labels generalizing left right with
  | nil => rfl
  | cons label labels ih =>
      obtain ⟨same, after⟩ := each label (.head _) left right relate
      have others := ih (fun other member => each other (.tail _ member)) after
      simp only [List.map_cons, runAll, same, others]

/-! ## Walks -/

namespace Source

variable [Source σ α] [Source ρ α]

/-- Sources that are asked for an item alike are walked over alike. -/
theorem simulates_collect {related : Scene σ → Scene ρ → Prop}
    (pull : Simulates related Eq (Source.pull : Action σ α) (Source.pull : Action ρ α)) (bound : Option Nat) :
    Simulates related Eq (collect bound : Action σ (List α)) (collect bound : Action ρ (List α)) := by
  intro left right relate
  simp only [collect]
  fun_induction collectFrom bound left generalizing right with
  | case1 left =>
      rw [collectFrom, if_pos rfl]
      exact ⟨.ok rfl, relate⟩
  | case2 bound left more item after taken rest last collected ih =>
      obtain ⟨agree, relate⟩ := pull left right relate
      rw [taken] at agree relate
      rcases taken' : Source.pull.run right with ⟨outcome, after'⟩
      rw [taken'] at agree relate
      cases agree.eq
      obtain ⟨agree, relate⟩ := ih after' relate
      rw [collected] at agree relate
      rw [collectFrom_eq more, taken']
      have same := agree.eq
      exact ⟨.of_eq (congrArg (Except.map (item :: ·)) same), relate⟩
  | case3 bound left more fault after failed =>
      obtain ⟨agree, relate⟩ := pull left right relate
      rw [failed] at agree relate
      rcases failed' : Source.pull.run right with ⟨outcome, after'⟩
      rw [failed'] at agree relate
      cases agree.eq
      rw [collectFrom_eq more, failed']
      exact ⟨.of_eq rfl, relate⟩

end Source

end QueryCursor
