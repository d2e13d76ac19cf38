import SnippetSearch.Proofs.Index.Visits

/-!
# Journals

Surroundings can be made to keep a journal of what they were asked and what
they answered.  Indexing goes the same way in them, so a journal says of any
call which files it read, with which content, and which vectors it was given.
-/

namespace SnippetSearch

variable {σ τ : Type}

/-- A question to the surroundings with the answer that was given. -/
inductive Inquiry where
  | read (path : Text) (text? : Option Text)
  | embed (request : EmbeddingRequest) (reply : EmbeddingReply)
  | list (catalog : FolderCatalog) (paths : List Text)

namespace Surroundings

/-- Surroundings that also write down each question with its answer, the latest last. -/
def recorded (around : Surroundings σ) : Surroundings (σ × List Inquiry) where
  read path state :=
    let answer := around.read path state.1
    (answer.1, answer.2, state.2 ++ [.read path answer.1])
  reply request state :=
    let answer := around.reply request state.1
    (answer.1, answer.2, state.2 ++ [.embed request answer.1])
  list catalog state :=
    let answer := around.list catalog state.1
    (answer.1, answer.2, state.2 ++ [.list catalog answer.1])

theorem recorded_read (around : Surroundings σ) (path : Text) (state : σ × List Inquiry) :
    around.recorded.read path state =
      ((around.read path state.1).1, (around.read path state.1).2,
        state.2 ++ [.read path (around.read path state.1).1]) := rfl

theorem recorded_embed {provider : Provider} (available : provider.available = true)
    (around : Surroundings σ) (task : EmbeddingTask) (text : LooseText)
    (state : σ × List Inquiry) :
    ∃ reply after, around.recorded.embed provider task text state =
      (reply.vector, after, state.2 ++ [.embed (provider.request task text) reply]) := by
  rw [Surroundings.embed, if_pos available]
  exact ⟨_, _, rfl⟩

/-- Detailed surroundings answer as others do once part of their state is forgotten. -/
structure Details (detailed : Surroundings τ) (around : Surroundings σ) (forget : τ → σ) :
    Prop where
  read : ∀ path state,
    Prod.map id forget (detailed.read path state) = around.read path (forget state)
  reply : ∀ request state,
    Prod.map id forget (detailed.reply request state) = around.reply request (forget state)
  list : ∀ catalog state,
    Prod.map id forget (detailed.list catalog state) = around.list catalog (forget state)

theorem recorded_details (around : Surroundings σ) : around.recorded.Details around Prod.fst :=
  ⟨fun _ _ => rfl, fun _ _ => rfl, fun _ _ => rfl⟩

variable {detailed : Surroundings τ} {around : Surroundings σ} {forget : τ → σ}

theorem Details.embed (details : detailed.Details around forget) (provider : Provider)
    (task : EmbeddingTask) (text : LooseText) (state : τ) :
    Prod.map id forget (detailed.embed provider task text state) =
      around.embed provider task text (forget state) := by
  rw [Surroundings.embed, Surroundings.embed]
  split
  · rw [← details.reply]
    rfl
  · rfl

end Surroundings

namespace Indexer

variable {detailed : Surroundings τ} {around : Surroundings σ} {forget : τ → σ}

theorem attemptAll_forget (details : detailed.Details around forget) (indexer : Indexer)
    (chunks : List Chunk) (state : τ) :
    Prod.map id forget (indexer.attemptAll detailed chunks state) =
      indexer.attemptAll around chunks (forget state) := by
  induction chunks generalizing state with
  | nil => rfl
  | cons chunk rest ih =>
      simp only [attemptAll, ← details.embed, Prod.map, ← ih, id]

theorem read_forget (details : detailed.Details around forget) (indexer : Indexer)
    (index : SnippetIndex) (path : Text) (state : τ) :
    Prod.map id forget (indexer.read detailed index path state) =
      indexer.read around index path (forget state) := by
  rw [Indexer.read, Indexer.read, ← details.read]
  rcases detailed.read path state with ⟨_ | content, between⟩
  · rfl
  · simp only [Prod.map, ← attemptAll_forget details, id]

theorem visitAll_forget (details : detailed.Details around forget) (indexer : Indexer)
    (index : SnippetIndex) (paths : List Text) (state : τ) :
    Prod.map id forget (indexer.visitAll detailed index paths state) =
      indexer.visitAll around index paths (forget state) := by
  induction paths generalizing index state with
  | nil => rfl
  | cons path rest ih =>
      by_cases known : index.isIndexed path = true
      · rw [visitAll_cons_of_known known, visitAll_cons_of_known known, ← ih]
        rfl
      by_cases ignored : indexer.filter.ignores path = true
      · rw [visitAll_cons_of_ignored known ignored, visitAll_cons_of_ignored known ignored, ← ih]
        rfl
      by_cases null : Path.hasNull path = true
      · rw [visitAll_cons_of_null known ignored null, visitAll_cons_of_null known ignored null]
        rfl
      · rw [visitAll_cons_of_read known ignored null detailed rest rfl,
          visitAll_cons_of_read known ignored null around rest
            (read_forget details indexer index path state).symm]
        dsimp only [Prod.map, id]
        rw [← ih]
        rfl

theorem run_forget (details : detailed.Details around forget) (indexer : Indexer)
    (index : SnippetIndex) (paths : List Text) (state : τ) :
    Prod.map id forget (indexer.run detailed index paths state) =
      indexer.run around index paths (forget state) := by
  rw [Indexer.run, Indexer.run]
  split
  · exact visitAll_forget details indexer index paths state
  · rfl

end Indexer

end SnippetSearch
