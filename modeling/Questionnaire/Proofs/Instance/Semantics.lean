import Questionnaire.Proofs.Instance.Resumption

/-!
# What an event does, as rules

The meaning of an event that the current state declares a transition for, as inference
rules over the declared names.  Every effect looks at the state and the context from
before; what it produces is either a patch or a notice.  The rules know nothing of resolved
tables or of contexts that are updated on the way, and an instance takes exactly the steps
that they allow.
-/

namespace Questionnaire

/-! ## What effects produce -/

namespace Effect

/-- What an effect makes of its input. -/
inductive Product where
  | patch (fields : Fields)
  | notice (event? : Option Event)

/-- What an effect makes of `input`. -/
def product (input : Input) : Effect → Product
  | .assign patch => .patch (patch input)
  | .notify notice => .notice (notice input)

namespace Product

/-- The value that a product gives to a key, if it gives it one. -/
def value? (key : String) : Product → Option Json
  | .patch fields => fields.get? key
  | .notice _ => none

/-- The signal that a product sends, if it sends one. -/
def signal? : Product → Option Signal
  | .patch _ => none
  | .notice event? => event?.map .notify

/-- The value that the last of the products with one gives to a key. -/
def lastValue? (key : String) (products : List Product) : Option Json :=
  products.reverse.findSome? (value? key)

@[simp] theorem lastValue?_cons
    (key : String)
    (product : Product)
    (products : List Product) :
    lastValue? key (product :: products) =
      (lastValue? key products).or (product.value? key) := by
  unfold lastValue?
  rw [List.reverse_cons, List.findSome?_append]
  simp

end Product
end Effect

open Effect (Product)

/-- The products of the effects that a table binds to a list of names, in its order. -/
def EffectTable.Produces
    (effects : EffectTable)
    (input : Effect.Input)
    (names : List String)
    (products : List Product) : Prop :=
  List.Forall₂
    (fun name product =>
      ∃ effect, effects.bindings.get? name = some effect ∧ product = effect.product input)
    names products

/-- What named effects make of an input: a context in which the last patch with a key
counts, and which is as before under every other key; and a signal for each notice. -/
def EffectTable.Evaluates
    (effects : EffectTable)
    (names : List String)
    (input : Effect.Input)
    (context : Fields)
    (signals : List Signal) : Prop :=
  ∃ products, effects.Produces input names products ∧
    (∀ key, context.get? key =
      (Product.lastValue? key products).or (input.context.get? key)) ∧
    signals = products.filterMap Product.signal?

theorem EffectTable.Evaluates.contains
    {effects : EffectTable}
    {names : List String}
    {input : Effect.Input}
    {context : Fields}
    {signals : List Signal}
    {key : String}
    (evaluates : effects.Evaluates names input context signals)
    (before : input.context.contains key = true) :
    context.contains key = true := by
  obtain ⟨products, _, values, _⟩ := evaluates
  unfold KeyMap.contains at before ⊢
  rw [values key, Option.isSome_or, before, Bool.or_true]

namespace ResolvedTransition

/-- The products of the effects of a transition. -/
def products (transition : ResolvedTransition) (input : Effect.Input) : List Product :=
  transition.effects.map (·.2.product input)

/-- Updating step by step, the last patch with a key counts. -/
theorem get?_update
    (transition : ResolvedTransition)
    (input : Effect.Input)
    (key : String) :
    (transition.update input).get? key =
      (Product.lastValue? key (transition.products input)).or (input.context.get? key) := by
  unfold update products
  generalize transition.effects = entries
  generalize input.context = context
  induction entries generalizing context with
  | nil => rfl
  | cons entry entries ih =>
    rw [List.foldl_cons, ih, List.map_cons, Product.lastValue?_cons]
    obtain ⟨name, effect⟩ := entry
    cases effect with
    | assign patch =>
      simp only [Effect.product, Product.value?, KeyMap.get?_merge, Option.or_assoc]
    | notify notice => simp only [Effect.product, Product.value?, Option.or_none]

/-- The notices of a transition are the signals of its products. -/
theorem map_notices (transition : ResolvedTransition) (input : Effect.Input) :
    (transition.notices input).map .notify =
      (transition.products input).filterMap Product.signal? := by
  unfold notices products
  rw [List.map_filterMap, List.filterMap_map]
  congr 1
  funext entry
  obtain ⟨name, effect⟩ := entry
  cases effect <;> rfl

end ResolvedTransition

section Resolved

variable {effects : EffectTable} {declared : Transition} {transition : ResolvedTransition}
  {machine : String}

/-- A resolved transition has the products of the names it was resolved from, and no
others. -/
theorem produces_iff
    (resolved : Definition.resolveTransition effects machine declared = .ok transition)
    (input : Effect.Input)
    (products : List Product) :
    effects.Produces input declared.effects products ↔
      products = transition.products input := by
  have bound := (Definition.resolveTransition_eq_ok_iff.1 resolved).2
  unfold EffectTable.Produces ResolvedTransition.products
  generalize declared.effects = names at bound
  generalize transition.effects = entries at bound
  induction bound generalizing products with
  | nil => simp
  | cons step _ ih =>
    rw [List.forall₂_cons_left_iff, List.map_cons]
    constructor
    · rintro ⟨product, rest, ⟨effect, found, same⟩, produced, rfl⟩
      cases step.2.symm.trans found
      rw [same, (ih rest).1 produced]
    · rintro rfl
      exact ⟨_, _, ⟨_, step.2, rfl⟩, (ih _).2 rfl, rfl⟩

/-- Resolved effects evaluate to the update and the notices that they are run for. -/
theorem evaluates_iff
    (resolved : Definition.resolveTransition effects machine declared = .ok transition)
    (input : Effect.Input)
    (context : Fields)
    (signals : List Signal) :
    effects.Evaluates declared.effects input context signals ↔
      context = transition.update input ∧
        signals = (transition.notices input).map .notify := by
  constructor
  · rintro ⟨products, produced, values, sent⟩
    cases (produces_iff resolved input products).1 produced
    refine ⟨KeyMap.ext_get? fun key => ?_, sent.trans (transition.map_notices input).symm⟩
    rw [values key, transition.get?_update input key]
  · rintro ⟨rfl, rfl⟩
    exact ⟨transition.products input, (produces_iff resolved input _).2 rfl,
      transition.get?_update input, transition.map_notices input⟩

end Resolved

/-! ## The rules -/

namespace Instance

variable {κ : Type} {definition : Definition} {effects : EffectTable} {machine : Instance κ}
  {declared : Transition}

/-- The turns that an event may lead to if the current state declares a transition for
it.  The subscribers are told the signals of the effects and, if the machine ends, of its
output last. -/
inductive Takes
    (effects : EffectTable)
    (declared : Transition)
    (now : Timestamp)
    (event : Event)
    (machine : Instance κ) : Turn (Instance κ) κ Outcome → Prop
  /-- Without a target the context changes, and nothing else. -/
  | stays {context : Fields} {signals : List Signal}
      (evaluates : effects.Evaluates declared.effects
        ⟨machine.current, machine.context, event⟩ context signals)
      (leads : declared.target = none) :
      Takes effects declared now event machine
        ⟨{ machine with context },
          .ok (.stayed machine.current),
          machine.broadcast signals⟩
  /-- A target that goes on is entered, also if the machine was in it. -/
  | enters {context : Fields} {signals : List Signal} {target : String} {node : StateNode}
      (evaluates : effects.Evaluates declared.effects
        ⟨machine.current, machine.context, event⟩ context signals)
      (leads : declared.target = some target)
      (found : machine.definition.state? target = some node)
      (goesOn : node.terminal = false) :
      Takes effects declared now event machine
        ⟨{ machine with
            context
            current := target
            history := ⟨machine.history.passages ++
              [⟨machine.current, target, event.kind, now⟩]⟩ },
          .ok (.transitioned machine.current target),
          machine.broadcast signals⟩
  /-- A terminal target is entered and ends the machine, with the output that it builds
  from the new context. -/
  | ends {context : Fields} {signals : List Signal} {target : String} {node : StateNode}
      {output : Json}
      (evaluates : effects.Evaluates declared.effects
        ⟨machine.current, machine.context, event⟩ context signals)
      (leads : declared.target = some target)
      (found : machine.definition.state? target = some node)
      (terminal : node.terminal = true)
      (built : output = node.output.elim (.obj []) (·.build context)) :
      Takes effects declared now event machine
        ⟨{ machine with
            context
            current := target
            history := ⟨machine.history.passages ++
              [⟨machine.current, target, event.kind, now⟩]⟩
            status := .done
            output := some output },
          .ok (.terminated target output),
          machine.broadcast (signals ++ [.done output])⟩

section Resolved

variable {transition : ResolvedTransition} {now : Timestamp} {event : Event}

/-- The rules allow what a resolved transition does. -/
theorem takes_follow
    (resolved : Definition.resolveTransition effects machine.definition.id declared =
      .ok transition)
    (known : ∀ target, declared.target = some target →
      ∃ node, machine.definition.state? target = some node) :
    Takes effects declared now event machine (machine.follow now event transition) := by
  have sameTarget := (Definition.resolveTransition_eq_ok_iff.1 resolved).1
  have evaluates := (evaluates_iff resolved (machine.input event) _ _).2 ⟨rfl, rfl⟩
  cases leads : transition.target with
  | none =>
    rw [follow_stay leads, notified_eq_broadcast]
    exact .stays evaluates (sameTarget.symm.trans leads)
  | some target =>
    have declaredLeads := sameTarget.symm.trans leads
    obtain ⟨node, found⟩ := known target declaredLeads
    cases terminal : node.terminal with
    | false =>
      rw [follow_enter leads (by simp [Definition.isTerminal, found, terminal]),
        notified_eq_broadcast]
      exact .enters evaluates declaredLeads found terminal
    | true =>
      rw [follow_end leads (by simp [Definition.isTerminal, found, terminal]),
        notified_eq_broadcast, emit_eq_broadcast]
      have ends : Takes effects declared now event machine _ :=
        .ends evaluates declaredLeads found terminal (builtOutput_landed found now event)
      rw [broadcast_append] at ends
      exact ends

/-- The rules allow nothing else. -/
theorem Takes.eq_follow
    {turn : Turn (Instance κ) κ Outcome}
    (resolved : Definition.resolveTransition effects machine.definition.id declared =
      .ok transition)
    (takes : Takes effects declared now event machine turn) :
    turn = machine.follow now event transition := by
  have sameTarget := (Definition.resolveTransition_eq_ok_iff.1 resolved).1
  cases takes with
  | stays evaluates leads =>
    obtain ⟨rfl, rfl⟩ := (evaluates_iff resolved _ _ _).1 evaluates
    rw [follow_stay (sameTarget.trans leads), notified_eq_broadcast]
    rfl
  | enters evaluates leads found goesOn =>
    obtain ⟨rfl, rfl⟩ := (evaluates_iff resolved _ _ _).1 evaluates
    rw [follow_enter (sameTarget.trans leads) (by simp [Definition.isTerminal, found, goesOn]),
      notified_eq_broadcast]
    rfl
  | ends evaluates leads found terminal built =>
    obtain ⟨rfl, rfl⟩ := (evaluates_iff resolved _ _ _).1 evaluates
    cases built.trans (builtOutput_landed found now event).symm
    rw [follow_end (sameTarget.trans leads) (by simp [Definition.isTerminal, found, terminal]),
      notified_eq_broadcast, emit_eq_broadcast, broadcast_append]
    rfl

end Resolved

/-- No key of a context is ever removed. -/
theorem Takes.contains
    {now : Timestamp}
    {event : Event}
    {turn : Turn (Instance κ) κ Outcome}
    {key : String}
    (takes : Takes effects declared now event machine turn)
    (before : machine.context.contains key = true) :
    turn.next.context.contains key = true := by
  cases takes with
  | stays evaluates => exact evaluates.contains before
  | enters evaluates => exact evaluates.contains before
  | ends evaluates => exact evaluates.contains before

/-- However a running instance was reached: an event that its state declares a transition
for leads to exactly the turn that the rules allow, and no key of the context is lost. -/
theorem dispatch_eq_iff_takes
    {event : Event}
    (reached : Reachable definition effects machine)
    (running : machine.status = .running)
    (declares : definition.transition? machine.current event.kind = some declared)
    (now : Timestamp) :
    (∀ turn, machine.dispatch now event = turn ↔
        Takes effects declared now event machine turn) ∧
      ∀ key, machine.context.contains key = true →
        (machine.dispatch now event).next.context.contains key = true := by
  obtain ⟨sound, rfl⟩ := reached.sound
  obtain ⟨transition, found, resolved⟩ := sound.exists_resolved declares
  have follows : machine.dispatch now event = machine.follow now event transition :=
    dispatch_eq_follow running found
  have takes : Takes effects declared now event machine (machine.dispatch now event) := by
    rw [follows]
    exact takes_follow resolved fun _ leads => sound.valid.target declares leads
  refine ⟨fun turn => ⟨?_, ?_⟩, fun _ => takes.contains⟩
  · rintro rfl
    exact takes
  · intro takes
    rw [follows, takes.eq_follow resolved]

/-- A till that counts its sales, each of which enters the same state again.  The effects
of a sale name one of them twice, write one key from two of them, and report in between. -/
def till : Definition where
  id := "till"
  initial := "open"
  states := .ofList [
    ("open", {
      on := .ofList [
        ("CLOSE", ⟨some "closed", []⟩),
        ("SALE", ⟨some "open", ["count", "report", "price", "count"]⟩)] }),
    ("closed", { terminal := true, output := some (.pick ["sales"]) })]

/-- The effects of the till. -/
def tillEffects : EffectTable :=
  .ofScripts [
    ("count", .assign [.add "sales" 1, .set "last" .null]),
    ("price", .assign [.copy "last" "price"]),
    ("report", .notify (some ⟨"SOLD", some "price", ∅, true⟩))]

/-- The till once somebody listens and it was opened. -/
def opened (machine : Instance Unit) : Instance Unit :=
  (machine.subscribe ()).2.start.next

/-- What the till counted on earlier days, and whose shift it is. -/
def carriedOver : Fields :=
  .ofList [("sales", .int 3), ("shift", .str "early")]

/-- A sale at a price. -/
def sale : Event :=
  (Event.ofKind "SALE").withField "price" (.int 5)

/-- The report of the first sale, which repeats what the effects of the sale look at. -/
def saleReport : Event :=
  ⟨"SOLD", .ofList [("state", .str "open"), ("event", .str "SALE"),
    ("payload", .object sale.payload), ("context", .object carriedOver)]⟩

/-- The till once it was opened and something was sold. -/
def served (machine : Instance Unit) : Instance Unit :=
  ((opened machine).dispatch .epoch sale).next

/-- A sale is counted once, its price gives way to the later patch, and it is reported with
the count from before; closing the till tells of the count.  Both follow the rules. -/
theorem dispatch_eq_iff_takes_of_till :
    ∃ first : Instance Unit,
      create tallyIds.1 till tillEffects carriedOver = .ok first ∧
      (served first).context =
        .ofList [("last", .null), ("sales", .int 4), ("shift", .str "early")] ∧
      ((opened first).dispatch .epoch sale).sent.map (·.envelope.signal) =
        [.notify saleReport] ∧
      ((served first).dispatch .epoch (.ofKind "CLOSE")).sent.map (·.envelope.signal) =
        [.done (.obj [("sales", .int 4)])] ∧
      (∃ declared, (opened first).status = .running ∧
        till.transition? (opened first).current sale.kind = some declared ∧
        (∀ turn, (opened first).dispatch .epoch sale = turn ↔
          Takes tillEffects declared .epoch sale (opened first) turn) ∧
        ∀ key, (opened first).context.contains key = true →
          ((opened first).dispatch .epoch sale).next.context.contains key = true) ∧
      ∃ declared, (served first).status = .running ∧
        till.transition? (served first).current "CLOSE" = some declared ∧
        (∀ turn, (served first).dispatch .epoch (.ofKind "CLOSE") = turn ↔
          Takes tillEffects declared .epoch (.ofKind "CLOSE") (served first) turn) ∧
        ∀ key, (served first).context.contains key = true →
          ((served first).dispatch .epoch (.ofKind "CLOSE")).next.context.contains key =
            true := by
  have checked : (create tallyIds.1 till tillEffects carriedOver).toOption.any
      (fun first => decide (
        (served first).context =
          .ofList [("last", .null), ("sales", .int 4), ("shift", .str "early")] ∧
        ((opened first).dispatch .epoch sale).sent.map (·.envelope.signal) =
          [.notify saleReport] ∧
        ((served first).dispatch .epoch (.ofKind "CLOSE")).sent.map (·.envelope.signal) =
          [.done (.obj [("sales", .int 4)])] ∧
        (opened first).status = .running ∧
        (till.transition? (opened first).current sale.kind).isSome ∧
        (served first).status = .running ∧
        (till.transition? (served first).current "CLOSE").isSome)) = true := by
    decide +kernel
  obtain ⟨first, built, passed⟩ := (Option.any_eq_true _ _).1 checked
  have created := toOption_eq_some_iff.1 built
  obtain ⟨counted, reported, announced, running, sells, runningLater, closes⟩ :=
    of_decide_eq_true passed
  obtain ⟨selling, declaresSale⟩ := Option.isSome_iff_exists.1 sells
  obtain ⟨closing, declaresClose⟩ := Option.isSome_iff_exists.1 closes
  have reached : Reachable till tillEffects (opened first) :=
    .start (.subscribe (.create created) ())
  have reachedLater : Reachable till tillEffects (served first) :=
    .dispatch reached .epoch sale
  exact ⟨first, created, counted, reported, announced,
    ⟨selling, running, declaresSale,
      dispatch_eq_iff_takes reached running declaresSale .epoch⟩,
    closing, runningLater, declaresClose,
    dispatch_eq_iff_takes reachedLater runningLater declaresClose .epoch⟩

end Instance
end Questionnaire
