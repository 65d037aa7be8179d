import Questionnaire.Child.Mailbox
import Questionnaire.Child.Slot
import Questionnaire.Proofs.Child.Guest

/-!
# A parent with a slot and a mailbox

A parent installs children in its slot, one after another, sends them events and opens the
envelopes in its mailbox; children that it took out again may be sent events directly, or be
installed once more.  All the while the mailbox tells of each child what it said while it was
in the slot, and nothing else.  What the children would say on their own is kept in a ledger,
in which no parent listens to them.
-/

namespace Questionnaire

variable {κ : Type} {parent : κ}

/-! ## What can be done -/

/-- A slot with its mailbox, and the children that were taken out of the slot. -/
structure Household (κ : Type) where
  slot : ChildSlot Instance κ := .empty
  mailbox : Mailbox := {}
  /-- The children that were handed back when the slot was cleared. -/
  released : List (Instance κ) := []
  /-- The envelopes that were taken from the mailbox, the oldest first. -/
  opened : List Envelope := []

/-- What can be done in a household. -/
inductive Deed (κ : Type) where
  /-- Install a child that comes from elsewhere. -/
  | install (now : Timestamp) (child : Instance κ)
  /-- Install a child that was released. -/
  | reinstall (now : Timestamp) (id : InstanceId)
  /-- Send an event through the slot; the parent is called `name` in the error. -/
  | send (name : String) (now : Timestamp) (event : Event)
  /-- Take the child out of the slot. -/
  | clear
  /-- Take the oldest envelope from the mailbox. -/
  | next
  /-- Send an event directly to a child that was released. -/
  | dispatch (id : InstanceId) (now : Timestamp) (event : Event)

/-- The child that comes from elsewhere, if one does. -/
def Deed.guest? : Deed κ → Option (Instance κ)
  | .install _ child => some child
  | _ => none

/-- The children that come from elsewhere on some deeds. -/
def Deed.guests (deeds : List (Deed κ)) : List (Instance κ) :=
  deeds.filterMap guest?

/-- The first child with an identity, and the others. -/
def Instance.pick? (id : InstanceId) (children : List (Instance κ)) :
    Option (Instance κ × List (Instance κ)) :=
  (children.find? (·.id = id)).map fun child => (child, children.eraseP (·.id = id))

theorem Instance.perm_of_pick?
    {id : InstanceId}
    {children others : List (Instance κ)}
    {child : Instance κ}
    (picked : Instance.pick? id children = some (child, others)) :
    children.Perm (child :: others) := by
  obtain ⟨found, foundEq, same⟩ := Option.map_eq_some_iff.1 picked
  cases same
  obtain ⟨matched, before, after, rfl, unmatched⟩ := List.find?_eq_some_iff_append.1 foundEq
  have erased : (before ++ child :: after).eraseP (·.id = id) = before ++ after := by
    rw [List.eraseP_append_right _ (by simpa using unmatched), List.eraseP_cons, matched, cond_true]
  rw [erased]
  exact List.perm_middle

namespace Household

/-- Take a child out of those that were released, if it is one of them. -/
def withReleased (id : InstanceId) (call : Instance κ → Call (Household κ) κ Unit) :
    Call (Household κ) κ Unit :=
  fun household =>
    match Instance.pick? id household.released with
    | none => some ⟨household, .ok (), []⟩
    | some (child, released) => call child { household with released }

/-- The household once the child was taken out of the slot. -/
def cleared (household : Household κ) : Household κ :=
  let (child?, slot) := household.slot.clear
  { household with slot, released := household.released ++ child?.toList }

/-- The household once the oldest envelope was taken from the mailbox. -/
def taken (household : Household κ) : Household κ :=
  match household.mailbox.next? with
  | none => household
  | some (envelope, mailbox) =>
    { household with mailbox, opened := household.opened ++ [envelope] }

variable [DecidableEq κ]

/-- The household after a call on one of its children: what was sent to the parent is in the
mailbox, and the rest leaves the household. -/
def settled {σ α : Type} (parent : κ) (household : Household κ) (turn : Turn σ κ α) :
    Turn (Household κ) κ Unit where
  next := { household with
    mailbox := household.mailbox.deliver (turn.sent.filter (·.outlet = parent)) }
  result := turn.result.map fun _ => ()
  sent := turn.sent.filter (·.outlet ≠ parent)

/-- Call the slot. -/
def onSlot {α : Type} (parent : κ) (call : Call (ChildSlot Instance κ) κ α) :
    Call (Household κ) κ Unit :=
  fun household =>
    (call household.slot).map fun turn =>
      { household with slot := turn.next }.settled parent turn

/-- Send an event to a child, and keep it with those that were released. -/
def dispatch (parent : κ) (now : Timestamp) (event : Event) (child : Instance κ) :
    Call (Household κ) κ Unit :=
  fun household =>
    let turn := child.dispatch now event
    some ({ household with released := household.released ++ [turn.next] }.settled parent turn)

/-- Do something. -/
def act (parent : κ) : Deed κ → Call (Household κ) κ Unit
  | .install now child => onSlot parent (ChildSlot.install now child parent)
  | .reinstall now id =>
    withReleased id fun child => onSlot parent (ChildSlot.install now child parent)
  | .send name now event => onSlot parent (ChildSlot.send name now event)
  | .clear => .change cleared
  | .next => .change taken
  | .dispatch id now event => withReleased id (dispatch parent now event)

/-- The household after several deeds, whether or not they fail. -/
def run (parent : κ) : List (Deed κ) → Household κ → Option (Household κ)
  | [], household => some household
  | deed :: later, household =>
    (act parent deed household).bind fun turn => run parent later turn.next

/-- A slot without a child refuses every event. -/
theorem onSlot_send_of_empty
    {household : Household κ}
    (empty : household.slot.attached? = none)
    (name : String)
    (now : Timestamp)
    (event : Event) :
    onSlot parent (ChildSlot.send name now event) household =
      some ⟨household, .error (.protocol (.noActiveChild name event.kind)), []⟩ := by
  unfold onSlot ChildSlot.send
  rw [empty]
  simp [settled, Mailbox.deliver, Mailbox.receive, Except.map]

end Household

/-! ## What the children would say on their own -/

/-- The children of a household as they would be if no parent listened to them. -/
structure Ledger (κ : Type) where
  /-- The child in the slot. -/
  occupant? : Option (Instance κ) := none
  free : List (Instance κ) := []
  /-- The children that were replaced by others. -/
  replaced : List (Instance κ) := []
  /-- The signals that the children said while they were in the slot, in their envelopes. -/
  said : List Envelope := []

namespace Ledger

/-- A child does something in the slot, and its signals are noted. -/
def occupied (child : Instance κ) (action : Instance.Action κ) (ledger : Ledger κ) : Ledger κ :=
  { ledger with
    occupant? := some (Instance.perform action child)
    said := ledger.said ++ (⟨child, action⟩ : Instance.Leg κ).emitted.map child.envelope }

/-- A child is put in the slot in place of the one before, and started. -/
def entered (child : Instance κ) (ledger : Ledger κ) : Ledger κ :=
  { ledger with replaced := ledger.replaced ++ ledger.occupant?.toList }.occupied
    child.passedOver .start

/-- A child that is free does something, and stays free. -/
def acted (child : Instance κ) (action : Instance.Action κ) (ledger : Ledger κ) : Ledger κ :=
  { ledger with free := ledger.free ++ [Instance.perform action child] }

/-- The ledger after a deed. -/
def note (ledger : Ledger κ) : Deed κ → Ledger κ
  | .install _ child => ledger.entered child
  | .reinstall _ id =>
    match Instance.pick? id ledger.free with
    | none => ledger
    | some (child, free) => { ledger with free }.entered child
  | .send _ now event =>
    match ledger.occupant? with
    | none => ledger
    | some child => ledger.occupied child (.dispatch now event)
  | .clear =>
    { ledger with occupant? := none, free := ledger.free ++ ledger.occupant?.toList }
  | .next => ledger
  | .dispatch id now event =>
    match Instance.pick? id ledger.free with
    | none => ledger
    | some (child, free) => { ledger with free }.acted child (.dispatch now event)

/-- The ledger after several deeds. -/
def keep (ledger : Ledger κ) (deeds : List (Deed κ)) : Ledger κ :=
  deeds.foldl note ledger

/-- The children that are in the slot or free. -/
def present (ledger : Ledger κ) : List (Instance κ) :=
  ledger.occupant?.toList ++ ledger.free

end Ledger

/-- A child is the same guest as before, whatever it did meanwhile. -/
structure Instance.Succeeds (parent : κ) (former child : Instance κ) : Prop where
  guest : child.Guest parent
  id : former.id = child.id
  subscribers : former.subscribers = child.subscribers

namespace Instance

variable {child : Instance κ} {action : Action κ}

theorem proper_start : (Action.start : Action κ).stimulus ≠ .registration := by
  simp [Action.stimulus]

theorem proper_dispatch {now : Timestamp} {event : Event} :
    (Action.dispatch now event : Action κ).stimulus ≠ .registration := by
  simp [Action.stimulus]

theorem Guest.succeeds (guest : child.Guest parent) : Succeeds parent child child :=
  ⟨guest, rfl, rfl⟩

theorem Guest.succeeds_perform
    (guest : child.Guest parent)
    (proper : action.stimulus ≠ .registration) :
    Succeeds parent child (Instance.perform action child) := by
  obtain ⟨id, _, kept⟩ := perform_keeps child action
  refine ⟨guest.perform ?_, id.symm, (kept proper).1.symm⟩
  rintro rfl
  exact proper rfl

end Instance

namespace Ledger

variable {guests : List (Instance κ)} {ledger before after : Ledger κ} {child : Instance κ}
  {action : Instance.Action κ}

/-- The children are guests, each with the subscribers with which it came, and every one that
came is in the slot, free or replaced.  In the slot, nobody is registered under the handle of
the parent. -/
structure Orderly (parent : κ) (guests : List (Instance κ)) (ledger : Ledger κ) : Prop where
  guest : ∀ child ∈ ledger.present, child.Guest parent
  vacant : ∀ child, ledger.occupant? = some child → child.Vacant
  kept : ∀ child ∈ ledger.present, ∃ guest ∈ guests,
    guest.id = child.id ∧ guest.subscribers = child.subscribers
  all : ((ledger.present ++ ledger.replaced).map Instance.id).Perm (guests.map Instance.id)

theorem orderly_empty : (({} : Ledger κ)).Orderly parent [] where
  guest := by simp [present]
  vacant := by simp
  kept := by simp [present]
  all := .refl _

namespace Orderly

/-- What is orderly stays so if all children that are present were present before. -/
theorem transfer
    (orderly : before.Orderly parent guests)
    (vacant : ∀ child, after.occupant? = some child → child.Vacant)
    (former : ∀ child ∈ after.present, ∃ former ∈ before.present,
      Instance.Succeeds parent former child)
    (all : ((after.present ++ after.replaced).map Instance.id).Perm
      ((before.present ++ before.replaced).map Instance.id)) :
    after.Orderly parent guests where
  guest child member := by
    obtain ⟨_, _, succeeds⟩ := former child member
    exact succeeds.guest
  vacant := vacant
  kept child member := by
    obtain ⟨other, there, succeeds⟩ := former child member
    obtain ⟨guest, came, id, subscribers⟩ := orderly.kept other there
    exact ⟨guest, came, id.trans succeeds.id, subscribers.trans succeeds.subscribers⟩
  all := all.trans orderly.all

theorem stays
    (orderly : ledger.Orderly parent guests)
    (there : child ∈ ledger.present) :
    ∃ former ∈ ledger.present, Instance.Succeeds parent former child :=
  ⟨child, there, (orderly.guest child there).succeeds⟩

theorem of_perm
    {free : List (Instance κ)}
    (orderly : ledger.Orderly parent guests)
    (same : ledger.free.Perm free) :
    { ledger with free }.Orderly parent guests := by
  have present : ledger.present.Perm { ledger with free }.present := same.append_left _
  refine orderly.transfer orderly.vacant ?_ ((present.symm.append_right _).map _)
  exact fun child member => orderly.stays (present.mem_iff.2 member)

/-- A guest comes, and waits. -/
theorem welcome
    (orderly : ledger.Orderly parent guests)
    (guest : child.Guest parent) :
    { ledger with free := child :: ledger.free }.Orderly parent (guests ++ [child]) := by
  have present : { ledger with free := child :: ledger.free }.present.Perm
      (child :: ledger.present) := List.perm_middle
  refine ⟨?_, orderly.vacant, ?_, ?_⟩
  · intro other member
    rcases List.mem_cons.1 (present.mem_iff.1 member) with rfl | there
    · exact guest
    · exact orderly.guest other there
  · intro other member
    rcases List.mem_cons.1 (present.mem_iff.1 member) with rfl | there
    · exact ⟨other, by simp, rfl, rfl⟩
    · obtain ⟨former, came, same⟩ := orderly.kept other there
      exact ⟨former, List.mem_append_left _ came, same⟩
  · have ids : ((child :: ledger.present ++ ledger.replaced).map Instance.id).Perm
        ((child :: guests).map Instance.id) := orderly.all.cons child.id
    exact ((present.append_right _).map _).trans
      (ids.trans ((List.perm_append_singleton child guests).symm.map _))

/-- A child that waited is put in the slot. -/
theorem entered
    (orderly : { ledger with free := child :: ledger.free }.Orderly parent guests) :
    (ledger.entered child).Orderly parent guests := by
  have waiting : child ∈ { ledger with free := child :: ledger.free }.present :=
    List.mem_append_right _ List.mem_cons_self
  have guest := orderly.guest child waiting
  have started := guest.passedOver.succeeds_perform Instance.proper_start
  refine orderly.transfer ?_ ?_ ?_
  · rintro _ ⟨⟩
    exact guest.numbered.vacant_passedOver.perform Instance.proper_start
  · intro other member
    rcases List.mem_cons.1 member with rfl | there
    · exact ⟨child, waiting, started.guest, started.id, started.subscribers⟩
    · exact orderly.stays (List.mem_append_right _ (List.mem_cons_of_mem _ there))
  · have moved : (child :: ledger.free ++ (ledger.replaced ++ ledger.occupant?.toList)).Perm
        (ledger.occupant?.toList ++ child :: ledger.free ++ ledger.replaced) := by
      rw [← List.append_assoc, List.append_assoc ledger.occupant?.toList]
      exact List.perm_append_comm
    have ids := moved.map Instance.id
    rw [List.cons_append, List.map_cons] at ids
    show (_ :: _).Perm _
    rw [← started.id]
    exact ids

/-- The child in the slot does something. -/
theorem occupied
    (orderly : ledger.Orderly parent guests)
    (inside : ledger.occupant? = some child)
    (proper : action.stimulus ≠ .registration) :
    (ledger.occupied child action).Orderly parent guests := by
  have there : child ∈ ledger.present := by simp [present, inside]
  have succeeds := (orderly.guest child there).succeeds_perform proper
  refine orderly.transfer ?_ ?_ ?_
  · rintro _ ⟨⟩
    exact (orderly.vacant child inside).perform proper
  · intro other member
    rcases List.mem_cons.1 member with rfl | free
    · exact ⟨child, there, succeeds⟩
    · exact orderly.stays (List.mem_append_right _ free)
  · simp [Ledger.occupied, present, inside, succeeds.id]

/-- A child that waited does something. -/
theorem acted
    {free : List (Instance κ)}
    (orderly : { ledger with free := child :: free }.Orderly parent guests)
    (proper : action.stimulus ≠ .registration) :
    ({ ledger with free }.acted child action).Orderly parent guests := by
  have waiting : child ∈ { ledger with free := child :: free }.present :=
    List.mem_append_right _ List.mem_cons_self
  have succeeds := (orderly.guest child waiting).succeeds_perform proper
  have swapped : { ledger with
      free := Instance.perform action child :: free }.Orderly parent guests := by
    refine orderly.transfer orderly.vacant ?_ ?_
    · intro other member
      rcases List.mem_append.1 member with inside | waits
      · exact orderly.stays (List.mem_append_left _ inside)
      · rcases List.mem_cons.1 waits with rfl | later
        · exact ⟨child, waiting, succeeds⟩
        · exact orderly.stays (List.mem_append_right _ (List.mem_cons_of_mem _ later))
    · simp [present, succeeds.id]
  exact swapped.of_perm (List.perm_append_singleton _ _).symm

theorem cleared (orderly : ledger.Orderly parent guests) :
    (ledger.note .clear).Orderly parent guests := by
  have present : (ledger.note .clear).present.Perm ledger.present := by
    show (ledger.free ++ ledger.occupant?.toList).Perm _
    exact List.perm_append_comm
  refine orderly.transfer (by simp [note]) ?_ ((present.append_right _).map _)
  exact fun child member => orderly.stays (present.mem_iff.1 member)

theorem note
    (orderly : ledger.Orderly parent guests)
    (deed : Deed κ)
    (welcome : ∀ child ∈ deed.guest?, child.Guest parent) :
    (ledger.note deed).Orderly parent (guests ++ deed.guest?.toList) := by
  cases deed with
  | install now child => exact (orderly.welcome (welcome child rfl)).entered
  | reinstall now id =>
    simp only [Deed.guest?, Option.toList_none, List.append_nil, Ledger.note]
    split
    · exact orderly
    · rename_i child free picked
      exact (orderly.of_perm (Instance.perm_of_pick? picked)).entered
  | send name now event =>
    simp only [Deed.guest?, Option.toList_none, List.append_nil, Ledger.note]
    split
    · exact orderly
    · rename_i child inside
      exact orderly.occupied inside Instance.proper_dispatch
  | clear =>
    simp only [Deed.guest?, Option.toList_none, List.append_nil]
    exact orderly.cleared
  | next =>
    simp only [Deed.guest?, Option.toList_none, List.append_nil]
    exact orderly
  | dispatch id now event =>
    simp only [Deed.guest?, Option.toList_none, List.append_nil, Ledger.note]
    split
    · exact orderly
    · rename_i child free picked
      exact (orderly.of_perm (Instance.perm_of_pick? picked)).acted Instance.proper_dispatch

end Orderly
end Ledger

/-! ## The household keeps to the ledger -/

/-- A household is as its ledger says, and the parent listens to the child in the slot. -/
structure Household.Mirrors (parent : κ) (ledger : Ledger κ) (household : Household κ) : Prop where
  attached : household.slot.attached? =
    ledger.occupant?.map fun child => ⟨child.listenedTo parent, child.lastHandle⟩
  released : household.released = ledger.free
  said : household.opened ++ household.mailbox.queue = ledger.said

namespace Household.Mirrors

variable {ledger : Ledger κ} {household : Household κ} {guests : List (Instance κ)}
  {child : Instance κ} {action : Instance.Action κ}

theorem cleared
    (mirrors : household.Mirrors parent ledger)
    (vacant : ∀ child, ledger.occupant? = some child → child.Vacant) :
    household.cleared.Mirrors parent (ledger.note .clear) := by
  have back : household.slot.clear = (ledger.occupant?, .empty) := by
    unfold ChildSlot.clear
    rw [mirrors.attached]
    cases inside : ledger.occupant? with
    | none => rfl
    | some child =>
      exact congrArg (fun child => (some child, ChildSlot.empty))
        ((vacant child inside).unsubscribe_listenedTo parent)
  unfold Household.cleared
  rw [back]
  exact ⟨rfl, congrArg (· ++ ledger.occupant?.toList) mirrors.released, mirrors.said⟩

theorem taken (mirrors : household.Mirrors parent ledger) :
    household.taken.Mirrors parent ledger := by
  have said := mirrors.said
  unfold Household.taken Mailbox.next?
  cases queued : household.mailbox.queue with
  | nil => exact mirrors
  | cons envelope rest =>
    rw [queued] at said
    refine ⟨mirrors.attached, mirrors.released, ?_⟩
    show household.opened ++ [envelope] ++ rest = _
    rw [List.append_assoc, List.singleton_append, said]

/-- What is done with a released child keeps to the ledger, if it does so whoever the child
is. -/
theorem withReleased
    {call : Instance κ → Call (Household κ) κ Unit}
    (follow : Instance κ → Ledger κ → Ledger κ)
    (mirrors : household.Mirrors parent ledger)
    (guests : ∀ child ∈ ledger.free, child.Guest parent)
    (each : ∀ child, child.Guest parent → ∀ {household : Household κ} {ledger : Ledger κ},
      household.Mirrors parent ledger →
        ∃ turn, call child household = some turn ∧ turn.next.Mirrors parent (follow child ledger))
    (id : InstanceId) :
    ∃ turn, Household.withReleased id call household = some turn ∧
      turn.next.Mirrors parent
        (match Instance.pick? id ledger.free with
        | none => ledger
        | some (child, free) => follow child { ledger with free }) := by
  unfold Household.withReleased
  rw [mirrors.released]
  cases picked : Instance.pick? id ledger.free with
  | none => exact ⟨_, rfl, mirrors⟩
  | some pair =>
    obtain ⟨child, free⟩ := pair
    have member : child ∈ ledger.free :=
      (Instance.perm_of_pick? picked).mem_iff.2 List.mem_cons_self
    exact each child (guests child member) ⟨mirrors.attached, rfl, mirrors.said⟩

variable [DecidableEq κ]

/-- While the parent listens to a guest, the mailbox takes in what the guest says. -/
theorem occupied
    (mirrors : household.Mirrors parent ledger)
    (guest : child.Guest parent)
    (proper : action.stimulus ≠ .registration) :
    let heard : Instance κ := child.listenedTo parent
    let leg : Instance.Leg κ := ⟨heard, action⟩
    { household with
      slot := ⟨some ⟨leg.after, child.lastHandle⟩⟩
      mailbox := household.mailbox.deliver (leg.sent.filter (·.outlet = parent)) }.Mirrors
        parent (ledger.occupied child action) := by
  intro heard leg
  refine ⟨?_, mirrors.released, ?_⟩
  · have after : leg.after = (Instance.perform action child).listenedTo parent :=
      Instance.perform_listenedTo proper parent
    rw [after]
    simp [Ledger.occupied, Instance.lastHandle_perform proper]
  · have heardOf := guest.filter_sent_listenedTo proper
    show household.opened ++ (household.mailbox.queue ++ _) = ledger.said ++ _
    rw [heardOf, ← List.append_assoc, mirrors.said]

theorem entered
    (mirrors : household.Mirrors parent ledger)
    (guest : child.Guest parent)
    (now : Timestamp) :
    ∃ turn, onSlot parent (ChildSlot.install now child parent) household = some turn ∧
      turn.next.Mirrors parent (ledger.entered child) := by
  let replacing : Ledger κ :=
    { ledger with replaced := ledger.replaced ++ ledger.occupant?.toList }
  have same : household.Mirrors parent replacing :=
    ⟨mirrors.attached, mirrors.released, mirrors.said⟩
  -- To subscribe is to pass over the child and then to listen to it under its last handle.
  exact ⟨_, rfl, same.occupied guest.passedOver Instance.proper_start⟩

theorem sent
    (mirrors : household.Mirrors parent ledger)
    (inside : ledger.occupant? = some child)
    (guest : child.Guest parent)
    (name : String)
    (now : Timestamp)
    (event : Event) :
    ∃ turn, onSlot parent (ChildSlot.send name now event) household = some turn ∧
      turn.next.Mirrors parent (ledger.occupied child (.dispatch now event)) := by
  have attached := mirrors.attached
  rw [inside, Option.map_some] at attached
  unfold onSlot ChildSlot.send
  rw [attached]
  exact ⟨_, rfl, mirrors.occupied guest Instance.proper_dispatch⟩

/-- A child that is free does something, and the parent does not hear it. -/
theorem dispatched
    (mirrors : household.Mirrors parent ledger)
    (guest : child.Guest parent)
    (now : Timestamp)
    (event : Event) :
    ∃ turn, Household.dispatch parent now event child household = some turn ∧
      turn.next.Mirrors parent (ledger.acted child (.dispatch now event)) := by
  have silent := guest.filter_sent (.dispatch now event)
  rw [Instance.Leg.sent_dispatch] at silent
  refine ⟨_, rfl, mirrors.attached, congrArg (· ++ [_]) mirrors.released, ?_⟩
  show household.opened ++ (household.mailbox.deliver (List.filter _ _)).queue = ledger.said
  rw [silent, ← mirrors.said]
  simp [Mailbox.deliver, Mailbox.receive]

/-- Every deed can be done, and keeps to the ledger. -/
theorem act
    (mirrors : household.Mirrors parent ledger)
    (orderly : ledger.Orderly parent guests)
    (deed : Deed κ)
    (welcome : ∀ child ∈ deed.guest?, child.Guest parent) :
    ∃ turn, Household.act parent deed household = some turn ∧
      turn.next.Mirrors parent (ledger.note deed) := by
  have free (child : Instance κ) (member : child ∈ ledger.free) : child.Guest parent :=
    orderly.guest child (List.mem_append_right _ member)
  cases deed with
  | install now child => exact mirrors.entered (welcome child rfl) now
  | reinstall now id =>
    exact mirrors.withReleased Ledger.entered free
      (fun child guest _ _ mirrors => mirrors.entered guest now) id
  | send name now event =>
    rw [Ledger.note]
    cases inside : ledger.occupant? with
    | none =>
      have empty := mirrors.attached
      rw [inside, Option.map_none] at empty
      exact ⟨_, onSlot_send_of_empty empty name now event, mirrors⟩
    | some child =>
      have guest := orderly.guest child (List.mem_append_left _ (by simp [inside]))
      exact mirrors.sent inside guest name now event
  | clear => exact ⟨_, rfl, mirrors.cleared orderly.vacant⟩
  | next => exact ⟨_, rfl, mirrors.taken⟩
  | dispatch id now event =>
    exact mirrors.withReleased (fun child => Ledger.acted child (.dispatch now event)) free
      (fun child guest _ _ mirrors => mirrors.dispatched guest now event) id

/-- So can any number of deeds; the ledger stays orderly on the way. -/
theorem run
    {deeds : List (Deed κ)}
    (mirrors : household.Mirrors parent ledger)
    (orderly : ledger.Orderly parent guests)
    (welcome : ∀ child ∈ Deed.guests deeds, child.Guest parent) :
    ∃ after, Household.run parent deeds household = some after ∧
      after.Mirrors parent (ledger.keep deeds) ∧
      (ledger.keep deeds).Orderly parent (guests ++ Deed.guests deeds) := by
  induction deeds generalizing household ledger guests with
  | nil => exact ⟨household, rfl, mirrors, (List.append_nil guests).symm ▸ orderly⟩
  | cons deed deeds ih =>
    have split : Deed.guests (deed :: deeds) =
        deed.guest?.toList ++ Deed.guests deeds := by
      cases brought : deed.guest? <;> simp [Deed.guests, brought]
    rw [split] at welcome
    have first (child : Instance κ) (brought : child ∈ deed.guest?) : child.Guest parent :=
      welcome child (List.mem_append_left _ (Option.mem_toList.2 brought))
    obtain ⟨turn, acted, mirrorsThen⟩ := mirrors.act orderly deed first
    obtain ⟨after, returned, mirrorsAfter, orderlyAfter⟩ :=
      ih mirrorsThen (orderly.note deed first)
        fun child member => welcome child (List.mem_append_right _ member)
    refine ⟨after, ?_, mirrorsAfter, ?_⟩
    · rw [Household.run, acted]
      exact returned
    · rw [split, ← List.append_assoc]
      exact orderlyAfter

end Household.Mirrors

/-! ## Parent and children kept apart -/

namespace Household

/-- Parent and children are kept apart after some deeds: the envelopes taken from the mailbox
so far and those still in it are what the children said while they were in the slot, in that
order; the child in the slot and those that were released are as if no parent had ever
listened to them, but that the parent now listens to the one in the slot; nothing that is done
with a released child is told to the parent unless it subscribes again, and the subscribers
with which the child came are still registered; the identity of the child in the slot is
current, and that of no other; and an empty slot refuses an event and stays as it is. -/
structure Separated
    [DecidableEq κ]
    (parent : κ)
    (deeds : List (Deed κ))
    (household : Household κ) :
    Prop where
  said : household.opened ++ household.mailbox.queue = (Ledger.keep {} deeds).said
  inside : household.slot.child? =
    (Ledger.keep {} deeds).occupant?.map (Instance.listenedTo parent)
  released : household.released = (Ledger.keep {} deeds).free
  unheard : ∀ child ∈ household.released, ∀ actions : List (Instance.Action κ),
    (∀ action ∈ actions, action ≠ .subscribe parent) →
      ∀ leg ∈ Instance.legs actions child, ∀ delivery ∈ leg.sent, delivery.outlet ≠ parent
  kept : ∀ child ∈ household.released, ∃ guest ∈ Deed.guests deeds,
    guest.id = child.id ∧ guest.subscribers = child.subscribers
  current : ∀ id, household.slot.isCurrent id = true ↔
    ∃ child, (Ledger.keep {} deeds).occupant? = some child ∧ child.id = id
  gone : ∀ child ∈ (Ledger.keep {} deeds).free ++ (Ledger.keep {} deeds).replaced,
    household.slot.isCurrent child.id = false
  refused : household.slot.child? = none → ∀ name now event,
    let error := DispatchError.protocol (.noActiveChild name event.kind)
    ChildSlot.send name now event household.slot = some ⟨household.slot, .error error, []⟩ ∧
      act parent (.send name now event) household = some ⟨household, .error error, []⟩

variable {ledger : Ledger κ} {household : Household κ}

theorem Mirrors.child?_slot (mirrors : household.Mirrors parent ledger) :
    household.slot.child? = ledger.occupant?.map (Instance.listenedTo parent) := by
  rw [ChildSlot.child?, mirrors.attached, Option.map_map]
  rfl

theorem Mirrors.isCurrent_iff (mirrors : household.Mirrors parent ledger) (id : InstanceId) :
    household.slot.isCurrent id = true ↔
      ∃ child, ledger.occupant? = some child ∧ child.id = id := by
  rw [ChildSlot.isCurrent, mirrors.child?_slot]
  cases ledger.occupant? with
  | none => simp
  | some child =>
    simp only [Option.map_some, Option.any_some, decide_eq_true_eq, Option.some.injEq,
      exists_eq_left']
    rfl

/-- Whatever is done in a household, with whatever guests of distinct identities: parent and
children are kept apart. -/
theorem separated_of_run
    [DecidableEq κ]
    {deeds : List (Deed κ)}
    (welcome : ∀ child ∈ Deed.guests deeds, child.Guest parent)
    (distinct : ((Deed.guests deeds).map Instance.id).Nodup) :
    ∃ household, run parent deeds {} = some household ∧ household.Separated parent deeds := by
  have empty : ({} : Household κ).Mirrors parent {} := ⟨rfl, rfl, rfl⟩
  obtain ⟨household, returned, mirrors, orderly⟩ := empty.run Ledger.orderly_empty welcome
  rw [List.nil_append] at orderly
  have free (child : Instance κ) (member : child ∈ household.released) :
      child ∈ (Ledger.keep {} deeds).present :=
    List.mem_append_right _ (mirrors.released ▸ member)
  refine ⟨household, returned, mirrors.said, mirrors.child?_slot, mirrors.released, ?_, ?_,
    mirrors.isCurrent_iff, ?_, ?_⟩
  · intro child member actions apart
    exact (orderly.guest child (free child member)).unheard_legs apart
  · exact fun child member => orderly.kept child (free child member)
  · intro child member
    apply eq_false_of_ne_true
    intro current
    obtain ⟨other, inside, same⟩ := (mirrors.isCurrent_iff _).1 current
    -- All children that came are told apart by their identities.
    have apart := orderly.all.nodup_iff.2 distinct
    rw [Ledger.present, inside, Option.toList_some, List.singleton_append, List.cons_append,
      List.map_cons, List.nodup_cons] at apart
    exact apart.1 (same ▸ List.mem_map_of_mem member)
  · intro vacant name now event
    have nobody : household.slot.attached? = none := Option.map_eq_none_iff.1 vacant
    refine ⟨?_, onSlot_send_of_empty nobody name now event⟩
    rw [ChildSlot.send, nobody]

/-- Two children take turns: the first one is taken out, acts on its own, and comes back in
place of the second one, before the envelopes are opened. -/
def takingTurns (first second : Instance String) : List (Deed String) :=
  let send (kind : String) : Deed String := .send "house" .epoch (.ofKind kind)
  [.install .epoch first, send "ADD", .clear, .dispatch first.id .epoch (.ofKind "ADD"),
    .install .epoch second, send "ADD", .next, .reinstall .epoch first.id, send "STOP", .clear]

/-- What becomes of two children that take turns: of the first one its first ring is opened,
while the ring of the second one and the end of the first one are still in the mailbox; the
first one is released with its other subscriber, and the slot is empty. -/
def TurnsTaken (household : Household String) : Prop :=
  household.opened.map (fun envelope => (envelope.source, envelope.signal)) =
      [(Instance.tallyIds.1, .notify (.ofKind "ADD"))] ∧
    household.mailbox.queue.map (fun envelope => (envelope.source, envelope.signal)) =
      [(Instance.tallyIds.2, .notify (.ofKind "ADD")), (Instance.tallyIds.1, .done (.obj []))] ∧
    household.released.map (·.subscribers) = [[(⟨0⟩, "log")]] ∧
    household.slot.child?.isNone = true

instance (household : Household String) : Decidable household.TurnsTaken :=
  inferInstanceAs (Decidable (_ ∧ _ ∧ _ ∧ _))

/-- Two tallies that ring on `ADD`, one of which a log hears, take turns and are kept apart from
the parent. -/
theorem separated_of_takingTurns :
    ∃ built second : Instance String,
      Instance.create Instance.tallyIds.1 Instance.tally Instance.noticeEffects ∅ = .ok built ∧
      Instance.create Instance.tallyIds.2 Instance.tally Instance.noticeEffects ∅ = .ok second ∧
      let deeds := takingTurns (built.subscribe "log").2 second
      (∀ child ∈ Deed.guests deeds, child.Guest "house") ∧
      ((Deed.guests deeds).map Instance.id).Nodup ∧
      ∃ household, run "house" deeds {} = some household ∧
        household.TurnsTaken ∧ household.Separated "house" deeds := by
  have checked :
      (Instance.create Instance.tallyIds.1 Instance.tally Instance.noticeEffects ∅).toOption.any
        (fun built =>
          (Instance.create Instance.tallyIds.2 Instance.tally Instance.noticeEffects
            ∅).toOption.any fun second =>
              let deeds := takingTurns (built.subscribe "log").2 second
              decide ((Deed.guests deeds).map Instance.id).Nodup &&
                (run "house" deeds {}).any fun household => decide household.TurnsTaken) =
        true := by
    decide +kernel
  obtain ⟨built, firstBuilt, found⟩ := (Option.any_eq_true _ _).1 checked
  obtain ⟨second, secondBuilt, passed⟩ := (Option.any_eq_true _ _).1 found
  obtain ⟨apart, taken⟩ := Bool.and_eq_true_iff.1 passed
  have distinct := of_decide_eq_true apart
  have firstCreated := toOption_eq_some_iff.1 firstBuilt
  have secondCreated := toOption_eq_some_iff.1 secondBuilt
  have welcome : ∀ child ∈ Deed.guests (takingTurns (built.subscribe "log").2 second),
      child.Guest "house" := by
    intro child member
    have apart : Instance.Action.subscribe "log" ≠ .subscribe "house" := by simp
    rcases List.mem_pair.1 member with rfl | rfl
    · exact (Instance.Guest.of_obtained (.built firstCreated) "house").perform apart
    · exact .of_obtained (.built secondCreated) "house"
  obtain ⟨household, returned, separated⟩ := separated_of_run welcome distinct
  refine ⟨built, second, firstCreated, secondCreated, welcome, distinct, household, returned, ?_,
    separated⟩
  rw [returned] at taken
  exact of_decide_eq_true taken

end Household
end Questionnaire
