import Questionnaire.Proofs.Flow.Run

/-!
# Stepping back

When an event makes a flow step back, the answers of every pod that is unwound are
dropped: those the pods have given, under whatever name, those given on the way, and
those under the names of questions that they can ask.
-/

namespace Questionnaire
namespace Flow

variable {κ : Type} {pods : List Definition} {board : Board} {pod : Definition}
  {question : Instance Unit} {flow : Flow κ} {now : Timestamp}

namespace Board

/-! ## Owners -/

/-- Every answer that has an owner was given by the pod at the progress or before it. -/
def Bounded (board : Board) : Prop :=
  ∀ name owner, board.owners.get? name = some owner → owner ≤ board.progress

/-- An answer is gone, or a certain pod has given it. -/
def Owed (board : Board) (name : String) (owner : Nat) : Prop :=
  board.answers.get? name = none ∨ board.owners.get? name = some owner

theorem notMem_stale_of_owner
    {name : String}
    {owner : Nat}
    (kept : (board.after pods .retreat).owners.get? name = some owner) :
    board.owners.get? name = some owner ∧ name ∉ board.stale pods := by
  simp only [after, KeyMap.get?_eraseAll] at kept
  split at kept
  · simp at kept
  · rename_i fresh
    exact ⟨kept, fresh⟩

theorem owner_after_retreat
    {name : String}
    {owner : Nat}
    (kept : (board.after pods .retreat).owners.get? name = some owner) :
    board.owners.get? name = some owner ∧ owner ≠ board.progress ∧
      owner ≠ board.progress - 1 := by
  obtain ⟨before, fresh⟩ := notMem_stale_of_owner kept
  have notUnwound : owner ∉ unwound board.progress := fun member =>
    fresh (mem_stale_iff.2 (.inl ⟨owner, member, before⟩))
  rw [mem_unwound_iff, not_or] at notUnwound
  exact ⟨before, notUnwound.1, notUnwound.2⟩

/-- An answer under the name of a question of an unwound pod does not survive. -/
theorem answer_after_retreat
    {name : String}
    {index : Nat}
    (unwinds : index = board.progress ∨ index = board.progress - 1)
    (found : pods[index]? = some pod)
    (asks : name ∈ pod.questionIds) :
    (board.after pods .retreat).answers.get? name = none := by
  have member : name ∈ board.stale pods :=
    mem_stale_iff.2 (.inr ⟨index, mem_unwound_iff.2 unwinds, pod, found, asks⟩)
  simp [after, KeyMap.get?_eraseAll, member]

theorem get?_after_retreat (pods : List Definition) (board : Board) (name : String) :
    (board.after pods .retreat).answers.get? name = none ∨
      (board.after pods .retreat).answers.get? name = board.answers.get? name ∧
        (board.after pods .retreat).owners.get? name = board.owners.get? name := by
  simp only [after, KeyMap.get?_eraseAll]
  split
  · exact .inl rfl
  · exact .inr ⟨rfl, rfl⟩

theorem Bounded.after (bounded : board.Bounded) (move : Move) :
    (board.after pods move).Bounded := by
  intro name owner owned
  cases move with
  | save question answer =>
    simp only [Board.after, KeyMap.get?_insert] at owned ⊢
    split at owned
    · exact Nat.le_of_eq (Option.some.inj owned).symm
    · exact bounded name owner owned
  | advance =>
    have := bounded name owner owned
    simp only [Board.after]
    omega
  | retreat =>
    obtain ⟨before, _, _⟩ := owner_after_retreat owned
    have := bounded name owner before
    simp only [Board.after]
    omega
  | restart => simp [Board.after] at owned

theorem Bounded.afterAll (bounded : board.Bounded) (moves : List Move) :
    (board.afterAll pods moves).Bounded := by
  induction moves generalizing board with
  | nil => exact bounded
  | cons move moves ih => exact ih (bounded.after move)

/-! ## Answers on the way -/

theorem Owed.after_step
    {name : String}
    {owner : Nat}
    {move : Move}
    (owed : board.Owed name owner)
    (step : move = .advance ∨ move = .retreat) :
    (board.after pods move).Owed name owner := by
  rcases step with rfl | rfl
  · exact owed
  · rcases get?_after_retreat pods board name with gone | ⟨same, sameOwner⟩
    · exact .inl gone
    · unfold Owed
      rwa [same, sameOwner]

theorem Owed.after_steps
    {name : String}
    {owner : Nat}
    {steps : List Move}
    (owed : board.Owed name owner)
    (each : ∀ move ∈ steps, move = .advance ∨ move = .retreat) :
    (board.afterAll pods steps).Owed name owner := by
  induction steps generalizing board with
  | nil => exact owed
  | cons move steps ih =>
    exact ih (owed.after_step (each move List.mem_cons_self))
      fun other member => each other (List.mem_cons_of_mem _ member)

/-- Recording an answer takes it over for the pod at the progress. -/
theorem Owed.after_save
    {name : String}
    {owner : Nat}
    (owed : board.Owed name owner)
    (pods : List Definition)
    (question : String)
    (answer : Json) :
    let saved := board.after pods (.save question answer)
    saved.Owed name owner ∨ saved.Owed name board.progress := by
  by_cases same : name = question
  · right
    right
    simp [after, same]
  · left
    simpa [Owed, after, KeyMap.get?_insert, same] using owed

/-- Answers only: the progress stays, what was recorded is owed to the pod at the
progress, and what was owed before is still owed or was taken over. -/
theorem afterAll_saves
    {saves : List Move}
    (pods : List Definition)
    (board : Board)
    (each : ∀ move ∈ saves, ∃ name answer, move = .save name answer) :
    let saved := board.afterAll pods saves
    saved.progress = board.progress ∧
      (∀ name answer, .save name answer ∈ saves → saved.Owed name board.progress) ∧
      ∀ name owner, board.Owed name owner →
        saved.Owed name owner ∨ saved.Owed name board.progress := by
  induction saves generalizing board with
  | nil => exact ⟨rfl, by simp, fun _ _ owed => .inl owed⟩
  | cons move saves ih =>
    obtain ⟨question, given, rfl⟩ := each move List.mem_cons_self
    obtain ⟨progress, recorded, owedBefore⟩ := ih (board.after pods (.save question given))
      fun other member => each other (List.mem_cons_of_mem _ member)
    have again (name : String)
        (owed : (board.after pods (.save question given)).Owed name board.progress) :
        (board.afterAll pods (.save question given :: saves)).Owed name board.progress :=
      (owedBefore name board.progress owed).elim id id
    refine ⟨progress, ?_, ?_⟩
    · intro name answer member
      rcases List.mem_cons.1 member with same | later
      · cases same
        exact again _ (.inr (KeyMap.get?_insert_self _ _ _))
      · exact recorded name answer later
    · intro name owner owed
      rcases owed.after_save pods question given with kept | taken
      · exact owedBefore name owner kept
      · exact .inr (again name taken)

/-! ## Steps -/

/-- Nothing is left of the pods from the progress up to `limit`: they own no answers,
and no answer is under the name of one of their questions. -/
structure Unwound (pods : List Definition) (limit : Nat) (board : Board) : Prop where
  below : ∀ name owner, board.owners.get? name = some owner → owner < board.progress
  clean : ∀ index pod name, board.progress ≤ index → index ≤ limit → pods[index]? = some pod →
    name ∈ pod.questionIds → board.answers.get? name = none

/-- One step unwinds the pods it crosses, when nothing was left of those behind. -/
theorem Bounded.unwound_after
    {limit : Nat}
    {move : Move}
    (bounded : board.Bounded)
    (clean : ∀ index pod name, board.progress < index → index ≤ limit →
      pods[index]? = some pod → name ∈ pod.questionIds → board.answers.get? name = none)
    (step : move = .advance ∨ move = .retreat) :
    (board.after pods move).Unwound pods limit := by
  rcases step with rfl | rfl
  · constructor
    · intro name owner owned
      exact Nat.lt_succ_of_le (bounded name owner owned)
    · intro index pod name lower
      exact clean index pod name lower
  · constructor
    · intro name owner owned
      obtain ⟨before, notHere, notPrevious⟩ := owner_after_retreat owned
      have atMost := bounded name owner before
      show owner < board.progress - 1
      omega
    · intro index pod name lower upper found asks
      have lower : board.progress - 1 ≤ index := lower
      by_cases beyond : board.progress < index
      · rcases get?_after_retreat pods board name with gone | ⟨same, _⟩
        · exact gone
        · rw [same]
          exact clean index pod name beyond upper found asks
      · exact answer_after_retreat (by omega) found asks

theorem Unwound.bounded {limit : Nat} (unwound : board.Unwound pods limit) : board.Bounded :=
  fun name owner owned => Nat.le_of_lt (unwound.below name owner owned)

theorem Unwound.after_steps
    {limit : Nat}
    {steps : List Move}
    (unwound : board.Unwound pods limit)
    (each : ∀ move ∈ steps, move = .advance ∨ move = .retreat) :
    (board.afterAll pods steps).Unwound pods limit := by
  induction steps generalizing board with
  | nil => exact unwound
  | cons move steps ih =>
    have next : (board.after pods move).Unwound pods limit :=
      unwound.bounded.unwound_after
        (fun index pod name lower => unwound.clean index pod name (Nat.le_of_lt lower))
        (each move List.mem_cons_self)
    exact ih next fun other member => each other (List.mem_cons_of_mem _ member)

/-- Any steps at all unwind the pods between where they end and where they began. -/
theorem Bounded.unwound_after_steps
    {steps : List Move}
    (bounded : board.Bounded)
    (each : ∀ move ∈ steps, move = .advance ∨ move = .retreat)
    (some : steps ≠ []) :
    (board.afterAll pods steps).Unwound pods board.progress := by
  obtain ⟨move, later, rfl⟩ := List.exists_cons_of_ne_nil some
  have first : (board.after pods move).Unwound pods board.progress :=
    bounded.unwound_after (fun index _ _ lower upper => by omega) (each move List.mem_cons_self)
  exact first.after_steps fun other member => each other (List.mem_cons_of_mem _ member)

/-- What the pods from the progress up to `limit` were owed is gone. -/
theorem Unwound.gone
    {limit owner : Nat}
    {name : String}
    (unwound : board.Unwound pods limit)
    (owed : board.Owed name owner)
    (upper : board.progress ≤ owner) :
    board.answers.get? name = none := by
  rcases owed with gone | owned
  · exact gone
  · have := unwound.below name owner owned
    omega

/-- What a board has forgotten after moves that did not lead on: it is unwound up to
where it stood, and it has neither the answers that the unwound pods had given nor any
that was given on the way. -/
structure Forgets (pods : List Definition) (board : Board) (moves : List Move) : Prop where
  unwound : (board.afterAll pods moves).Unwound pods board.progress
  given : ∀ name owner, board.owners.get? name = some owner →
    (board.afterAll pods moves).progress ≤ owner →
    (board.afterAll pods moves).answers.get? name = none
  saved : ∀ name answer, .save name answer ∈ moves →
    (board.afterAll pods moves).answers.get? name = none

/-- Answers and then steps that do not lead on make a board forget. -/
theorem Bounded.forgets
    {saves steps : List Move}
    (bounded : board.Bounded)
    (answers : ∀ move ∈ saves, ∃ name answer, move = .save name answer)
    (each : ∀ move ∈ steps, move = .advance ∨ move = .retreat)
    (some : steps ≠ [])
    (fell : (board.afterAll pods (saves ++ steps)).progress ≤ board.progress) :
    board.Forgets pods (saves ++ steps) := by
  obtain ⟨kept, recorded, owedBefore⟩ := afterAll_saves pods board answers
  have unwound : (board.afterAll pods (saves ++ steps)).Unwound pods board.progress := by
    rw [afterAll_append, ← kept]
    exact (bounded.afterAll saves).unwound_after_steps each some
  have gone (name : String) (owner : Nat) (owed : (board.afterAll pods saves).Owed name owner)
      (upper : (board.afterAll pods (saves ++ steps)).progress ≤ owner) :
      (board.afterAll pods (saves ++ steps)).answers.get? name = none := by
    apply unwound.gone _ upper
    rw [afterAll_append]
    exact owed.after_steps each
  refine ⟨unwound, ?_, ?_⟩
  · intro name owner owned upper
    rcases owedBefore name owner (.inr owned) with still | taken
    · exact gone name owner still upper
    · exact gone name board.progress taken fell
  · intro name answer member
    rcases List.mem_append.1 member with early | late
    · exact gone name board.progress (recorded name answer early) fell
    · rcases each _ late with no | no <;> cases no

end Board

/-! ## Sending an event that steps back -/

/-- A flow went back: its progress fell, or the first pod is asked afresh. -/
def WentBack (before after : Flow κ) : Prop :=
  after.progress < before.progress ∨
    after.progress = 0 ∧ before.progress = 0 ∧
      after.question?.map Instance.id ≠ before.question?.map Instance.id

instance (before after : Flow κ) : Decidable (WentBack before after) :=
  inferInstanceAs (Decidable (_ ∨ _))

/-- A question before a pod that is left backwards as soon as it is asked. -/
def recoil : List Definition :=
  [questionPod "name", instantPod Pod.quitValue]

/-- An answer under a name of its own. -/
def nickname : Event :=
  (Event.ofKind Pod.submit).withField Pod.questionKey (.str "nickname")

end Flow
end Questionnaire
