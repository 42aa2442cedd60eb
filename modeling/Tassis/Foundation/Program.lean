import Mathlib.Logic.Basic

/-! # Programs and their environment

A program performs operations and continues with whatever its environment
replies. What a program may do is stated by rules over a view: what it has
learnt so far. A rule speaks of one operation at a time, and a program obeys
the rules if every operation it can come to is allowed.
-/

namespace Tassis

universe u v w

/-- A program over typed operations. A loop without a bound is a family of
programs, one for each number of rounds after which it is stopped. -/
inductive Program (Operation : Type u) (Reply : Operation → Type v) (α : Type v) where
  | done (value : α)
  | call (operation : Operation) (next : Reply operation → Program Operation Reply α)
  | crash
  | stopped

namespace Program

variable {Operation : Type u} {Reply : Operation → Type v} {α β : Type v}

def bind (program : Program Operation Reply α) (next : α → Program Operation Reply β) :
    Program Operation Reply β :=
  match program with
  | .done value => next value
  | .call operation rest => .call operation fun reply => (rest reply).bind next
  | .crash => .crash
  | .stopped => .stopped

instance : Monad (Program Operation Reply) where
  pure := .done
  bind := .bind

/-- The program that performs one operation and returns the reply. -/
def perform (operation : Operation) : Program Operation Reply (Reply operation) :=
  .call operation .done

/-! ## Rules -/

/-- How the environment treats a program. -/
structure Interface (Operation : Type u) (Reply : Operation → Type v) (View : Type w) where
  /-- The replies that are possible. -/
  replies : View → (operation : Operation) → Reply operation → Prop
  /-- The view after a reply. -/
  next : View → (operation : Operation) → Reply operation → View

/-- What a program may do, given its view. -/
structure Rules (Operation : Type u) (Reply : Operation → Type v) (View : Type w) extends
    Interface Operation Reply View where
  allows : View → Operation → Prop
  mayCrash : View → Prop

variable {View : Type w}

/-- The program performs allowed operations only, and its value meets the
postcondition if it comes to an end. -/
def Obeys (rules : Rules Operation Reply View) (post : View → α → Prop) :
    Program Operation Reply α → View → Prop
  | .done value, view => post view value
  | .call operation next, view =>
      rules.allows view operation ∧ ∀ reply, rules.replies view operation reply →
        Obeys rules post (next reply) (rules.next view operation reply)
  | .crash, view => rules.mayCrash view
  | .stopped, _ => True

variable {rules : Rules Operation Reply View} {post : View → α → Prop} {view : View}

@[simp] theorem obeys_done (value : α) : Obeys rules post (.done value) view ↔ post view value :=
  Iff.rfl

@[simp] theorem obeys_pure (value : α) :
    Obeys rules post (pure value) view ↔ post view value :=
  Iff.rfl

@[simp] theorem obeys_perform (operation : Operation)
    {post : View → Reply operation → Prop} :
    Obeys rules post (perform operation) view ↔
      rules.allows view operation ∧ ∀ reply, rules.replies view operation reply →
        post (rules.next view operation reply) reply :=
  Iff.rfl

/-- What follows a program has to obey the rules from every view in which the
program can end. -/
@[simp] theorem obeys_bind (program : Program Operation Reply α)
    (next : α → Program Operation Reply β) {post : View → β → Prop} :
    Obeys rules post (program >>= next) view ↔
      Obeys rules (fun view value => Obeys rules post (next value) view) program view := by
  induction program generalizing view with
  | done value => exact Iff.rfl
  | call operation rest induction =>
      refine and_congr_right' (forall_congr' fun reply => ?_)
      exact imp_congr_right fun _ => induction reply
  | crash => exact Iff.rfl
  | stopped => exact Iff.rfl

theorem Obeys.mono {program : Program Operation Reply α} {weaker : View → α → Prop}
    (obeys : Obeys rules post program view)
    (implied : ∀ view value, post view value → weaker view value) :
    Obeys rules weaker program view := by
  induction program generalizing view with
  | done value => exact implied view value obeys
  | call operation rest induction =>
      exact ⟨obeys.1, fun reply possible => induction reply (obeys.2 reply possible)⟩
  | crash => exact obeys
  | stopped => trivial

/-- The program obeys the rules whatever has been learnt before. -/
def Always (rules : Rules Operation Reply View) (program : Program Operation Reply α) : Prop :=
  ∀ view, Obeys rules (fun _ _ => True) program view

theorem Always.obeys {program : Program Operation Reply α} (always : Always rules program)
    {post : View → α → Prop} (holds : ∀ view value, post view value) :
    Obeys rules post program view :=
  (always view).mono fun view value _ => holds view value

theorem Always.pure (value : α) : Always rules (Pure.pure value) := fun _ => trivial

theorem Always.perform {operation : Operation}
    (allowed : ∀ view, rules.allows view operation) : Always rules (perform operation) :=
  fun view => ⟨allowed view, fun _ _ => trivial⟩

theorem Always.bind {program : Program Operation Reply α}
    {next : α → Program Operation Reply β} (first : Always rules program)
    (second : ∀ value, Always rules (next value)) : Always rules (program >>= next) := by
  intro view
  rw [obeys_bind]
  exact first.obeys fun view value => second value view

/-- Every program obeys rules that allow everything. -/
theorem always_of_permissive (allowed : ∀ view operation, rules.allows view operation)
    (mayCrash : ∀ view, rules.mayCrash view) (program : Program Operation Reply α) :
    Always rules program := by
  intro view
  induction program generalizing view with
  | done value => trivial
  | call operation rest induction => exact ⟨allowed _ _, fun reply _ => induction reply _⟩
  | crash => exact mayCrash _
  | stopped => trivial

/-- The rules that allow some operations, whatever has happened before. -/
def only (allowed : Operation → Prop) : Rules Operation Reply Unit where
  replies _ _ _ := True
  next _ _ _ := ()
  allows _ := allowed
  mayCrash _ := True

/-- A program that performs some operations only obeys every set of rules under
which each of them is allowed and keeps an invariant. -/
theorem Always.carries {allowed : Operation → Prop} {program : Program Operation Reply α}
    (always : Always (only allowed) program) {invariant : View → Prop}
    (step : ∀ view operation, invariant view → allowed operation →
      rules.allows view operation ∧ ∀ reply, rules.replies view operation reply →
        invariant (rules.next view operation reply))
    (mayCrash : ∀ view, rules.mayCrash view) (holds : invariant view) :
    Obeys rules (fun view _ => invariant view) program view := by
  have obeys := always ()
  clear always
  induction program generalizing view with
  | done value => exact holds
  | call operation rest induction =>
      have carried := step view operation holds obeys.1
      refine ⟨carried.1, ?_⟩
      intro reply possible
      exact induction reply (carried.2 reply possible) (obeys.2 reply trivial)
  | crash => exact mayCrash view
  | stopped => trivial

/-- A program that performs some operations only obeys every set of rules that
allows them. -/
theorem Always.of_only {allowed : Operation → Prop} {program : Program Operation Reply α}
    (always : Always (only allowed) program)
    (implied : ∀ view operation, allowed operation → rules.allows view operation)
    (mayCrash : ∀ view, rules.mayCrash view) : Always rules program := fun _ =>
  always.carries (fun view operation _ allows => ⟨implied view operation allows, fun _ _ => trivial⟩)
    mayCrash trivial

theorem Always.weaken {allowed weaker : Operation → Prop} {program : Program Operation Reply α}
    (always : Always (only allowed) program)
    (implied : ∀ operation, allowed operation → weaker operation) :
    Always (only weaker) program :=
  always.of_only (fun _ => implied) fun _ => trivial

theorem Always.of_call {allowed : Operation → Prop} {operation : Operation}
    {next : Reply operation → Program Operation Reply α}
    (always : Always (only allowed) (.call operation next)) :
    allowed operation ∧ ∀ reply, Always (only allowed) (next reply) :=
  ⟨(always ()).1, fun reply _ => (always ()).2 reply trivial⟩

/-! ## Programs that come to an end -/

/-- The program obeys the rules and is not stopped: whatever the replies, it comes
to an end that meets the postcondition, or crashes where it may. -/
def Settles (rules : Rules Operation Reply View) (post : View → α → Prop) :
    Program Operation Reply α → View → Prop
  | .done value, view => post view value
  | .call operation next, view =>
      rules.allows view operation ∧ ∀ reply, rules.replies view operation reply →
        Settles rules post (next reply) (rules.next view operation reply)
  | .crash, view => rules.mayCrash view
  | .stopped, _ => False

@[simp] theorem settles_done (value : α) :
    Settles rules post (.done value) view ↔ post view value :=
  Iff.rfl

@[simp] theorem settles_pure (value : α) :
    Settles rules post (pure value) view ↔ post view value :=
  Iff.rfl

@[simp] theorem settles_perform (operation : Operation)
    {post : View → Reply operation → Prop} :
    Settles rules post (perform operation) view ↔
      rules.allows view operation ∧ ∀ reply, rules.replies view operation reply →
        post (rules.next view operation reply) reply :=
  Iff.rfl

@[simp] theorem settles_bind (program : Program Operation Reply α)
    (next : α → Program Operation Reply β) {post : View → β → Prop} :
    Settles rules post (program >>= next) view ↔
      Settles rules (fun view value => Settles rules post (next value) view) program view := by
  induction program generalizing view with
  | done value => exact Iff.rfl
  | call operation rest induction =>
      refine and_congr_right' (forall_congr' fun reply => ?_)
      exact imp_congr_right fun _ => induction reply
  | crash => exact Iff.rfl
  | stopped => exact Iff.rfl

theorem Settles.mono {program : Program Operation Reply α} {weaker : View → α → Prop}
    (settles : Settles rules post program view)
    (implied : ∀ view value, post view value → weaker view value) :
    Settles rules weaker program view := by
  induction program generalizing view with
  | done value => exact implied view value settles
  | call operation rest induction =>
      exact ⟨settles.1, fun reply possible => induction reply (settles.2 reply possible)⟩
  | crash => exact settles
  | stopped => exact settles

/-! ## One operation at a time -/

/-- The next operation of a program. -/
def operation : Program Operation Reply α → Option Operation
  | .call operation _ => some operation
  | _ => none

/-- The rest of a program after its next operation, which has to be this one. -/
def resume [DecidableEq Operation] :
    Program Operation Reply α → (operation : Operation) → Reply operation →
      Option (Program Operation Reply α)
  | .call expected next, operation, reply =>
      if same : operation = expected then some (next (same ▸ reply)) else none
  | _, _, _ => none

theorem resume_eq_some [DecidableEq Operation] {program rest : Program Operation Reply α}
    {operation : Operation} {reply : Reply operation}
    (resumed : program.resume operation reply = some rest) :
    ∃ next, program = .call operation next ∧ rest = next reply := by
  cases program with
  | call expected next =>
      simp only [resume] at resumed
      split at resumed
      · rename_i same
        subst same
        exact ⟨next, rfl, (Option.some.inj resumed).symm⟩
      · cases resumed
  | done value => cases resumed
  | crash => cases resumed
  | stopped => cases resumed

/-- The program goes on like this once it has performed the operation for the
first time, and with this reply. -/
inductive Upon (operation : Operation) (reply : Reply operation) :
    Program Operation Reply α → Program Operation Reply α → Prop where
  | here {next : Reply operation → Program Operation Reply α} :
      Upon operation reply (.call operation next) (next reply)
  | later {other : Operation} {next : Reply other → Program Operation Reply α}
      {rest : Program Operation Reply α} (different : other ≠ operation) (reply' : Reply other)
      (upon : Upon operation reply (next reply') rest) :
      Upon operation reply (.call other next) rest

theorem upon_call_self {operation : Operation} {reply : Reply operation}
    {next : Reply operation → Program Operation Reply α} {rest : Program Operation Reply α} :
    Upon operation reply (.call operation next) rest ↔ rest = next reply := by
  constructor
  · intro upon
    cases upon with
    | here => rfl
    | later different => exact absurd rfl different
  · intro equal
    rw [equal]
    exact .here

theorem upon_call_other {operation other : Operation} (different : other ≠ operation)
    {reply : Reply operation} {next : Reply other → Program Operation Reply α}
    {rest : Program Operation Reply α} :
    Upon operation reply (.call other next) rest ↔
      ∃ reply', Upon operation reply (next reply') rest := by
  constructor
  · intro upon
    cases upon with
    | here => exact absurd rfl different
    | later _ reply' upon => exact ⟨reply', upon⟩
  · intro later
    rcases later with ⟨reply', upon⟩
    exact .later different reply' upon

/-! ## Executions -/

/-- How an execution comes to its end. -/
inductive Outcome where
  | crashed
  | ended
  deriving DecidableEq, Repr

/-- With some replies, the program comes to this end with this view. -/
inductive Halts (interface : Interface Operation Reply View) :
    Program Operation Reply α → View → Outcome → View → Prop where
  | crash {view : View} : Halts interface .crash view .crashed view
  | done {view : View} {value : α} : Halts interface (.done value) view .ended view
  | call {view final : View} {outcome : Outcome} {operation : Operation}
      {next : Reply operation → Program Operation Reply α} (reply : Reply operation)
      (possible : interface.replies view operation reply)
      (later : Halts interface (next reply) (interface.next view operation reply) outcome final) :
      Halts interface (.call operation next) view outcome final

/-- With some replies, the program crashes. -/
def Crashes (interface : Interface Operation Reply View) (program : Program Operation Reply α)
    (view : View) : Prop :=
  ∃ final, Halts interface program view .crashed final

/-- With some replies, the program comes to an end with this view. -/
abbrev Ends (interface : Interface Operation Reply View) (program : Program Operation Reply α)
    (view final : View) : Prop :=
  Halts interface program view .ended final

theorem Crashes.crash {interface : Interface Operation Reply View} :
    Crashes interface (.crash : Program Operation Reply α) view :=
  ⟨view, .crash⟩

theorem Crashes.call {interface : Interface Operation Reply View} {operation : Operation}
    {next : Reply operation → Program Operation Reply α} (reply : Reply operation)
    (possible : interface.replies view operation reply)
    (later : Crashes interface (next reply) (interface.next view operation reply)) :
    Crashes interface (.call operation next) view := by
  rcases later with ⟨final, halts⟩
  exact ⟨final, .call reply possible halts⟩

/-- A program that obeys rules crashes where it may, and ends where it has to. -/
theorem Obeys.of_halts {program : Program Operation Reply α} {post : View → Prop}
    (obeys : Obeys rules (fun view _ => post view) program view) {outcome : Outcome}
    {final : View} (halts : Halts rules.toInterface program view outcome final) :
    outcome = .crashed ∧ rules.mayCrash final ∨ outcome = .ended ∧ post final := by
  induction halts with
  | crash => exact Or.inl ⟨rfl, obeys⟩
  | done => exact Or.inr ⟨rfl, obeys⟩
  | call reply possible later induction => exact induction (obeys.2 reply possible)

theorem Obeys.of_ends {program : Program Operation Reply α} {post : View → Prop}
    (obeys : Obeys rules (fun view _ => post view) program view) {final : View}
    (ends : Ends rules.toInterface program view final) : post final := by
  rcases obeys.of_halts ends with ⟨crashed, _⟩ | ⟨_, holds⟩
  · cases crashed
  · exact holds

theorem Obeys.of_crashes {program : Program Operation Reply α} {post : View → Prop}
    (obeys : Obeys rules (fun view _ => post view) program view) {final : View}
    (crashes : Halts rules.toInterface program view .crashed final) : rules.mayCrash final := by
  rcases obeys.of_halts crashes with ⟨_, mayCrash⟩ | ⟨ended, _⟩
  · exact mayCrash
  · cases ended

/-- If a program crashes exactly where it may, and what it has to achieve at an end is
equivalent to a condition, it ends and achieves that exactly on this condition. -/
theorem Obeys.ended_iff {program : Program Operation Reply α} {achieved condition : View → Prop}
    (obeys : Obeys rules
      (fun view _ => ¬rules.mayCrash view ∧ (achieved view ↔ condition view)) program view)
    {outcome : Outcome} {final : View}
    (halts : Halts rules.toInterface program view outcome final) :
    outcome = .ended ∧ achieved final ↔ ¬rules.mayCrash final ∧ condition final := by
  rcases obeys.of_halts halts with ⟨rfl, mayCrash⟩ | ⟨rfl, harmless, equivalent⟩
  · exact iff_of_false (fun ended => by cases ended.1) fun harmless => harmless.1 mayCrash
  · exact (and_iff_right rfl).trans (equivalent.trans (and_iff_right harmless).symm)

/-- A program that obeys rules without crashes does not crash. -/
theorem Obeys.not_crashes {program : Program Operation Reply α} {post : View → Prop}
    (obeys : Obeys rules (fun view _ => post view) program view)
    (crashFree : ∀ view, ¬rules.mayCrash view) : ¬Crashes rules.toInterface program view := by
  rintro ⟨final, crashes⟩
  exact crashFree final (obeys.of_crashes crashes)

/-- Whatever the replies are, the program comes to an end or crashes. -/
def Terminates (interface : Interface Operation Reply View) (program : Program Operation Reply α)
    (view : View) : Prop :=
  Settles ⟨interface, fun _ _ => True, fun _ => True⟩ (fun _ _ => True) program view

theorem Settles.terminates {program : Program Operation Reply α}
    (settles : Settles rules post program view) : Terminates rules.toInterface program view := by
  induction program generalizing view with
  | done value => trivial
  | call operation rest induction =>
      exact ⟨trivial, fun reply possible => induction reply (settles.2 reply possible)⟩
  | crash => trivial
  | stopped => exact settles

theorem Settles.obeys {program : Program Operation Reply α}
    (settles : Settles rules post program view) : Obeys rules post program view := by
  induction program generalizing view with
  | done value => exact settles
  | call operation rest induction =>
      exact ⟨settles.1, fun reply possible => induction reply (settles.2 reply possible)⟩
  | crash => exact settles
  | stopped => trivial

end Program

end Tassis
