import Mathlib.Logic.Basic

/-!
# Programs that call the outside world

Every Go function modelled in this development is a sequence of calls to collaborators
that live outside the repository (a key vault, a storage backend, the random source, a
gRPC dial, the libvirt connection, a file handler) with plain control flow between them.
`Prog Op Ret α` is such a function: a tree whose inner nodes are calls `op : Op` that
branch on the answer, of type `Ret op`, and whose leaves are the values returned.  The
functions themselves are written in `do` notation and read like the Go source.

`Exec ans w p tr w' a` runs `p` from the world `w` with every call answered as the
relation `ans` allows: `tr` lists the calls made together with their answers, `w'` is
the world afterwards and `a` the value returned.  Under `anyAnswer` every answer is
possible, which is how "for every failure of every collaborator" is stated.

Since a `Prog` is a finite tree, every run of a `Prog` returns after finitely many calls.
A function that ends in a `for { ... }` loop is a `ForLoop`: a `Prog` that enters the
loop and a `Prog` for one turn of it.  `ForLoop.Exec` are its runs that return and
`ForLoop.Steps` its partial runs, which also cover a loop that never leaves; `Steps` is
the partial run of a `Prog` with its answers checked.
-/

namespace Constellation

/-- A function that makes calls `op : Op`, each answered with a value of type `Ret op`,
and returns a value of type `α`. -/
inductive Prog (Op : Type) (Ret : Op → Type) (α : Type) where
  /-- Return `a`. -/
  | pure (a : α)
  /-- Call `op` and continue with its answer. -/
  | call (op : Op) (k : Ret op → Prog Op Ret α)

/-- One call together with the answer it got. -/
structure Answered (Op : Type) (Ret : Op → Type) where
  op : Op
  ret : Ret op

namespace Prog

variable {Op : Type} {Ret : Op → Type} {α β : Type}

/-- Sequencing: run `p`, then `f` on its result. -/
def bind : Prog Op Ret α → (α → Prog Op Ret β) → Prog Op Ret β
  | pure a, f => f a
  | call op k, f => call op fun r => (k r).bind f

instance : Monad (Prog Op Ret) where
  pure := pure
  bind := bind

@[simp] theorem pure_eq (a : α) : (Pure.pure a : Prog Op Ret α) = pure a := rfl

@[simp] theorem pure_bind (a : α) (f : α → Prog Op Ret β) : (pure a >>= f) = f a := rfl

@[simp] theorem call_bind (op : Op) (k : Ret op → Prog Op Ret α) (f : α → Prog Op Ret β) :
    (call op k >>= f) = call op fun r => k r >>= f := rfl

/-! ## Runs -/

/-- `Exec ans w p tr w' a`: run from the world `w` with every call answered as `ans`
allows, `p` makes the calls `tr`, leaves the world `w'` and returns `a`. -/
inductive Exec {W : Type} (ans : W → (op : Op) → Ret op → W → Prop) :
    W → Prog Op Ret α → List (Answered Op Ret) → W → α → Prop
  | pure (w : W) (a : α) : Exec ans w (pure a) [] w a
  | call {w w' w'' : W} {op : Op} {k : Ret op → Prog Op Ret α} {r : Ret op}
      {tr : List (Answered Op Ret)} {a : α} :
      ans w op r w' → Exec ans w' (k r) tr w'' a → Exec ans w (call op k) (⟨op, r⟩ :: tr) w'' a

/-- Every answer is possible and the world is not looked at. -/
def anyAnswer (_ : Unit) (op : Op) (_ : Ret op) (_ : Unit) : Prop := True

variable {W : Type} {ans : W → (op : Op) → Ret op → W → Prop}

@[simp] theorem exec_pure_iff {w w' : W} {a b : α} {tr : List (Answered Op Ret)} :
    Exec ans w (pure a) tr w' b ↔ tr = [] ∧ w' = w ∧ b = a := by
  constructor
  · rintro ⟨⟩; exact ⟨rfl, rfl, rfl⟩
  · rintro ⟨rfl, rfl, rfl⟩; exact .pure _ _

@[simp] theorem exec_call_iff {w w'' : W} {op : Op} {k : Ret op → Prog Op Ret α}
    {tr : List (Answered Op Ret)} {a : α} :
    Exec ans w (call op k) tr w'' a ↔
      ∃ r w' tr', ans w op r w' ∧ tr = ⟨op, r⟩ :: tr' ∧ Exec ans w' (k r) tr' w'' a := by
  constructor
  · rintro ⟨⟩; exact ⟨_, _, _, ‹_›, rfl, ‹_›⟩
  · rintro ⟨r, w', tr', h, rfl, hk⟩; exact .call h hk

/-- A call in a run whose world is `Unit`, the world of functions whose collaborators keep
no state of their own. -/
theorem Exec.call_unit {ans : Unit → (op : Op) → Ret op → Unit → Prop} {op : Op}
    {k : Ret op → Prog Op Ret α} {r : Ret op} {tr : List (Answered Op Ret)} {a : α}
    (h : ans () op r ()) (hk : Exec ans () (k r) tr () a) :
    Exec ans () (Prog.call op k) (⟨op, r⟩ :: tr) () a :=
  .call h hk

/-- A run seen through a map `f` of the worlds: a run under `ans` is a run under `ans'` when
every answer `ans` gives is one `ans'` gives between the worlds seen through `f`. -/
theorem Exec.map {V : Type} {ans' : V → (op : Op) → Ret op → V → Prop} (f : W → V)
    (hf : ∀ {w op r w'}, ans w op r w' → ans' (f w) op r (f w')) {p : Prog Op Ret α} {w w' : W}
    {tr : List (Answered Op Ret)} {a : α} (h : Exec ans w p tr w' a) :
    Exec ans' (f w) p tr (f w') a := by
  induction h with
  | pure => exact .pure _ _
  | call h _ ih => exact .call (hf h) ih

/-- A run of `p >>= f` is a run of `p` followed by a run of `f` on its result. -/
theorem exec_bind_iff {p : Prog Op Ret α} {f : α → Prog Op Ret β} {w w'' : W}
    {tr : List (Answered Op Ret)} {b : β} :
    Exec ans w (p >>= f) tr w'' b ↔
      ∃ tr₁ tr₂ w' a, tr = tr₁ ++ tr₂ ∧ Exec ans w p tr₁ w' a ∧ Exec ans w' (f a) tr₂ w'' b := by
  induction p generalizing w tr with
  | pure a =>
    simp only [pure_bind, exec_pure_iff]
    constructor
    · intro h; exact ⟨[], tr, w, a, rfl, ⟨rfl, rfl, rfl⟩, h⟩
    · rintro ⟨_, _, _, _, rfl, ⟨rfl, rfl, rfl⟩, h⟩; exact h
  | call op k ih =>
    simp only [call_bind, exec_call_iff, ih]
    constructor
    · rintro ⟨r, w₁, _, h, rfl, tr₁, tr₂, w', a, rfl, h₁, h₂⟩
      exact ⟨_, tr₂, w', a, rfl, ⟨r, w₁, tr₁, h, rfl, h₁⟩, h₂⟩
    · rintro ⟨_, tr₂, w', a, rfl, ⟨r, w₁, tr₁, h, rfl, h₁⟩, h₂⟩
      exact ⟨r, w₁, _, h, rfl, tr₁, tr₂, w', a, rfl, h₁, h₂⟩

/-! ## Partial runs -/

/-- `Reaches p tr p'`: given the answers `tr` in order, `p` becomes `p'`.  A thread that
shares the world with others makes its calls one at a time; this is where it stands. -/
inductive Reaches : Prog Op Ret α → List (Answered Op Ret) → Prog Op Ret α → Prop
  | refl (p : Prog Op Ret α) : Reaches p [] p
  | call {op : Op} {k : Ret op → Prog Op Ret α} {r : Ret op} {tr : List (Answered Op Ret)}
      {p' : Prog Op Ret α} : Reaches (k r) tr p' → Reaches (call op k) (⟨op, r⟩ :: tr) p'

@[simp] theorem reaches_pure_iff {a : α} {tr : List (Answered Op Ret)} {p' : Prog Op Ret α} :
    Reaches (pure a) tr p' ↔ tr = [] ∧ p' = pure a := by
  constructor
  · rintro ⟨⟩; exact ⟨rfl, rfl⟩
  · rintro ⟨rfl, rfl⟩; exact .refl _

@[simp] theorem reaches_call_iff {op : Op} {k : Ret op → Prog Op Ret α}
    {tr : List (Answered Op Ret)} {p' : Prog Op Ret α} :
    Reaches (call op k) tr p' ↔
      tr = [] ∧ p' = call op k ∨ ∃ r tr', tr = ⟨op, r⟩ :: tr' ∧ Reaches (k r) tr' p' := by
  constructor
  · rintro (_ | ⟨h⟩)
    · exact .inl ⟨rfl, rfl⟩
    · exact .inr ⟨_, _, rfl, h⟩
  · rintro (⟨rfl, rfl⟩ | ⟨r, tr', rfl, h⟩)
    · exact .refl _
    · exact .call h

/-- A thread about to call `op` that gets the answer `r` moves on to `k r`. -/
theorem Reaches.snoc {p : Prog Op Ret α} {tr : List (Answered Op Ret)} {op : Op}
    {k : Ret op → Prog Op Ret α} (h : Reaches p tr (Prog.call op k)) (r : Ret op) :
    Reaches p (tr ++ [⟨op, r⟩]) (k r) := by
  generalize hq : Prog.call op k = q at h
  induction h with
  | refl => subst hq; exact .call (.refl _)
  | call _ ih => exact .call (ih hq)

/-- The calls of a run, with the answers they got, take the program to the value it
returned. -/
theorem Exec.reaches {p : Prog Op Ret α} {w w' : W} {tr : List (Answered Op Ret)} {a : α}
    (h : Exec ans w p tr w' a) : Reaches p tr (Prog.pure a) := by
  induction h with
  | pure => exact .refl _
  | call _ _ ih => exact .call ih

/-- A partial run that has returned is a run under `anyAnswer`. -/
theorem Reaches.exec {p : Prog Op Ret α} {tr : List (Answered Op Ret)} {a : α}
    (h : Reaches p tr (Prog.pure a)) : Exec anyAnswer () p tr () a := by
  generalize hq : (Prog.pure a : Prog Op Ret α) = q at h
  induction h with
  | refl => subst hq; exact .pure _ _
  | call _ ih => exact .call trivial (ih hq)

/-- `Steps ans w p tr w' p'`: from the world `w`, with every call answered as `ans`
allows, `p` makes the calls `tr` and stands at `p'` in the world `w'`.  Unlike `Reaches`,
it checks the answers. -/
inductive Steps {W : Type} (ans : W → (op : Op) → Ret op → W → Prop) :
    W → Prog Op Ret α → List (Answered Op Ret) → W → Prog Op Ret α → Prop
  | refl (w : W) (p : Prog Op Ret α) : Steps ans w p [] w p
  | call {w w' w'' : W} {op : Op} {k : Ret op → Prog Op Ret α} {r : Ret op}
      {tr : List (Answered Op Ret)} {p' : Prog Op Ret α} :
      ans w op r w' → Steps ans w' (k r) tr w'' p' → Steps ans w (call op k) (⟨op, r⟩ :: tr) w'' p'

section Steps

variable {w w' w'' : W} {tr : List (Answered Op Ret)}

/-- A run that returned is a partial run that stands at the value returned. -/
theorem Exec.steps {p : Prog Op Ret α} {a : α} (h : Exec ans w p tr w' a) :
    Steps ans w p tr w' (Prog.pure a) := by
  induction h with
  | pure => exact .refl _ _
  | call h _ ih => exact .call h ih

end Steps

/-! ## Functions that end in a loop -/

/-- A function whose last statement is `for { ... }`: `start` runs first and returns
`some b` to return `b`, or `none` to enter the loop; each turn of the loop runs `body`,
which returns `some b` to leave the loop, and the function, with `b`, or `none` to go
round again. -/
structure ForLoop (Op : Type) (Ret : Op → Type) (β : Type) where
  start : Prog Op Ret (Option β)
  body : Prog Op Ret (Option β)

namespace ForLoop

/-- `ExecFrom ans body w p tr w' b`: `p` runs, and then `body` for as long as the last run
returned `none`, until one returns `some b`. -/
inductive ExecFrom {W : Type} (ans : W → (op : Op) → Ret op → W → Prop)
    (body : Prog Op Ret (Option β)) :
    W → Prog Op Ret (Option β) → List (Answered Op Ret) → W → β → Prop
  | done {w w' : W} {p : Prog Op Ret (Option β)} {tr : List (Answered Op Ret)} {b : β} :
      Exec ans w p tr w' (some b) → ExecFrom ans body w p tr w' b
  | next {w w₁ w' : W} {p : Prog Op Ret (Option β)} {tr₁ tr₂ : List (Answered Op Ret)} {b : β} :
      Exec ans w p tr₁ w₁ none → ExecFrom ans body w₁ body tr₂ w' b →
        ExecFrom ans body w p (tr₁ ++ tr₂) w' b

/-- A run of the loop seen through a map `f` of the worlds, as `Prog.Exec.map`. -/
theorem ExecFrom.map {W V : Type} {ans : W → (op : Op) → Ret op → W → Prop}
    {ans' : V → (op : Op) → Ret op → V → Prop} (f : W → V)
    (hf : ∀ {w op r w'}, ans w op r w' → ans' (f w) op r (f w'))
    {body p : Prog Op Ret (Option β)} {w w' : W} {tr : List (Answered Op Ret)} {b : β}
    (h : ExecFrom ans body w p tr w' b) : ExecFrom ans' body (f w) p tr (f w') b := by
  induction h with
  | done h => exact .done (h.map f hf)
  | next h _ ih => exact .next (h.map f hf) ih

/-- `StepsFrom ans body w p tr w'`: a partial run of `p` followed by the loop: some runs
that went round again, then a part of one more. -/
inductive StepsFrom {W : Type} (ans : W → (op : Op) → Ret op → W → Prop)
    (body : Prog Op Ret (Option β)) :
    W → Prog Op Ret (Option β) → List (Answered Op Ret) → W → Prop
  | part {w w' : W} {p q : Prog Op Ret (Option β)} {tr : List (Answered Op Ret)} :
      Steps ans w p tr w' q → StepsFrom ans body w p tr w'
  | next {w w₁ w' : W} {p : Prog Op Ret (Option β)} {tr₁ tr₂ : List (Answered Op Ret)} :
      Exec ans w p tr₁ w₁ none → StepsFrom ans body w₁ body tr₂ w' →
        StepsFrom ans body w p (tr₁ ++ tr₂) w'

/-- The runs of the function that return. -/
def Exec {W : Type} (ans : W → (op : Op) → Ret op → W → Prop) (f : ForLoop Op Ret β) (w : W)
    (tr : List (Answered Op Ret)) (w' : W) (b : β) : Prop :=
  ExecFrom ans f.body w f.start tr w' b

/-- The partial runs of the function, those of a loop that never leaves included. -/
def Steps {W : Type} (ans : W → (op : Op) → Ret op → W → Prop) (f : ForLoop Op Ret β) (w : W)
    (tr : List (Answered Op Ret)) (w' : W) : Prop :=
  StepsFrom ans f.body w f.start tr w'

end ForLoop

/-! ## What a program can call -/

/-- `AllCalls P p`: every call that `p` can make, whatever the answers, satisfies `P`. -/
inductive AllCalls (P : Op → Prop) : Prog Op Ret α → Prop
  | pure (a : α) : AllCalls P (pure a)
  | call {op : Op} {k : Ret op → Prog Op Ret α} :
      P op → (∀ r, AllCalls P (k r)) → AllCalls P (call op k)

section AllCalls

variable {P Q : Op → Prop}

theorem AllCalls.bind {p : Prog Op Ret α} {f : α → Prog Op Ret β} (hp : AllCalls P p)
    (hf : ∀ a, AllCalls P (f a)) : AllCalls P (p >>= f) := by
  induction hp with
  | pure a => exact hf a
  | call hop _ ih => exact .call hop ih

theorem AllCalls.mono {p : Prog Op Ret α} (hp : AllCalls P p) (hPQ : ∀ op, P op → Q op) :
    AllCalls Q p := by
  induction hp with
  | pure a => exact .pure a
  | call hop _ ih => exact .call (hPQ _ hop) ih

/-- Every call of a run is one the program can make. -/
theorem AllCalls.exec {p : Prog Op Ret α} {w w' : W} {tr : List (Answered Op Ret)} {a : α}
    (hp : AllCalls P p) (h : Exec ans w p tr w' a) : ∀ c ∈ tr, P c.op := by
  induction h with
  | pure => simp
  | call _ _ ih =>
    cases hp with
    | call hop hk =>
      rintro c (_ | ⟨_, hc⟩)
      · exact hop
      · exact ih (hk _) c hc

/-- Every call of a partial run is one the program can make. -/
theorem AllCalls.reaches {p p' : Prog Op Ret α} {tr : List (Answered Op Ret)}
    (hp : AllCalls P p) (h : Reaches p tr p') : ∀ c ∈ tr, P c.op := by
  induction h with
  | refl => simp
  | call _ ih =>
    cases hp with
    | call hop hk =>
      rintro c (_ | ⟨_, hc⟩)
      · exact hop
      · exact ih (hk _) c hc

end AllCalls

end Prog

end Constellation
