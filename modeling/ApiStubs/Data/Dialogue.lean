/-!
# Dialogues

A state that is asked one question after another: each answer may depend on the state and may change
it.  What holds of one question is carried to a whole dialogue here once: where its parts meet, what
every step keeps, and when two states answer alike.
-/

namespace ApiStubs

variable {σ α β : Type}

/-- The state after questions asked in turn, and the answers in order. -/
def dialogue (ask : σ → α → σ × β) (state : σ) : List α → σ × List β
  | [] => (state, [])
  | question :: rest =>
    let (next, answer) := ask state question
    let (last, answers) := dialogue ask next rest
    (last, answer :: answers)

variable {ask : σ → α → σ × β}

@[simp]
theorem dialogue_nil (s : σ) : dialogue ask s [] = (s, []) := rfl

@[simp]
theorem dialogue_cons (s : σ) (question : α) (rest : List α) :
    dialogue ask s (question :: rest) =
      ((dialogue ask (ask s question).1 rest).1,
        (ask s question).2 :: (dialogue ask (ask s question).1 rest).2) := rfl

theorem dialogue_append (s : σ) (before rest : List α) :
    dialogue ask s (before ++ rest) =
      ((dialogue ask (dialogue ask s before).1 rest).1,
        (dialogue ask s before).2 ++ (dialogue ask (dialogue ask s before).1 rest).2) := by
  induction before generalizing s with
  | nil => simp
  | cons question before ih => simp [ih]

theorem length_dialogue (s : σ) (questions : List α) :
    (dialogue ask s questions).2.length = questions.length := by
  induction questions generalizing s with
  | nil => rfl
  | cons question rest ih => simp [ih]

/-- The answers after those to some questions are those of the state that the questions lead to. -/
theorem dialogue_getElem?_append (s : σ) (before rest : List α) (i : Nat) :
    (dialogue ask s (before ++ rest)).2[before.length + i]? =
      (dialogue ask (dialogue ask s before).1 rest).2[i]? := by
  have hlength : (dialogue ask s before).2.length = before.length := length_dialogue s before
  rw [dialogue_append, ← hlength, List.getElem?_append_right (Nat.le_add_right ..),
    Nat.add_sub_cancel_left]

/-- A question in the middle is answered by the state that those before it lead to. -/
theorem dialogue_getElem? (s : σ) (before rest : List α) (question : α) :
    (dialogue ask s (before ++ question :: rest)).2[before.length]? =
      some (ask (dialogue ask s before).1 question).2 :=
  dialogue_getElem?_append s before (question :: rest) 0

/-- A question that leaves the state as it was can be left out. -/
theorem dialogue_eraseIdx {s : σ} {before : List α} {question : α}
    (h : (ask (dialogue ask s before).1 question).1 = (dialogue ask s before).1) (rest : List α) :
    (dialogue ask s (before ++ question :: rest)).2.eraseIdx before.length =
      (dialogue ask s (before ++ rest)).2 := by
  have hlength : (dialogue ask s before).2.length = before.length := length_dialogue s before
  rw [dialogue_append, dialogue_append, dialogue_cons, h, ← hlength,
    List.eraseIdx_append_of_length_le (Nat.le_refl _)]
  simp

/-- What every question of a kind keeps, between the state and notes taken of questions and answers,
holds after all of them. -/
theorem dialogue_keeps {τ : Type} {P : σ → τ → Prop} {note : τ → α × β → τ} {Allowed : α → Prop}
    (hstep : ∀ {s notes question}, Allowed question → P s notes →
      P (ask s question).1 (note notes (question, (ask s question).2)))
    {questions : List α} (hallowed : ∀ question ∈ questions, Allowed question) {s : σ} {notes : τ}
    (h : P s notes) :
    P (dialogue ask s questions).1
      ((questions.zip (dialogue ask s questions).2).foldl note notes) := by
  induction questions generalizing s notes with
  | nil => exact h
  | cons question rest ih =>
    obtain ⟨hquestion, hrest⟩ := List.forall_mem_cons.1 hallowed
    exact ih hrest (hstep hquestion h)

/-- States in a relation that every question of a kind keeps give the same answer to every question
on which states in the relation agree. -/
theorem dialogue_agree {R : σ → σ → Prop} {Allowed Agreed : α → Prop}
    (hkeeps : ∀ {s t question}, Allowed question → R s t → R (ask s question).1 (ask t question).1)
    (hagree : ∀ {s t question}, R s t → Agreed question → (ask s question).2 = (ask t question).2)
    {questions : List α} (hallowed : ∀ question ∈ questions, Allowed question) {s t : σ} (h : R s t)
    {i : Nat} (hi : ∀ question, questions[i]? = some question → Agreed question) :
    (dialogue ask s questions).2[i]? = (dialogue ask t questions).2[i]? := by
  induction questions generalizing s t i with
  | nil => rfl
  | cons question rest ih =>
    obtain ⟨hquestion, hrest⟩ := List.forall_mem_cons.1 hallowed
    cases i with
    | zero =>
      simp only [dialogue_cons, List.getElem?_cons_zero]
      rw [hagree h (hi question rfl)]
    | succ i =>
      simp only [dialogue_cons, List.getElem?_cons_succ]
      exact ih hrest (hkeeps hquestion h) fun other hother => hi other (by simpa using hother)

end ApiStubs
