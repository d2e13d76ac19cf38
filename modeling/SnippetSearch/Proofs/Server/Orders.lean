import SnippetSearch.Proofs.Json.Spelling
import SnippetSearch.Proofs.Server.Exchanges
import SnippetSearch.Proofs.Text.Ascii

/-!
# Orders as they are sent

A search is ordered by a JSON object with the query and the number of results.
It is sent in printable ASCII, so that it arrives as it was sent, and the order
in it is the one that was meant.  Only a number of too many digits is refused.
-/

namespace SnippetSearch

/-! ## Printable JSON -/

namespace Json

open Text

theorem isPrintable_hexDigits (width value : Nat) : IsPrintable (hexDigits width value) := by
  induction width generalizing value with
  | zero => exact nofun
  | succ width ih =>
      have digits : ∀ digit < 16, isPrintable (Nat.digitChar digit) = true := by decide
      exact (ih _).append (.cons (digits _ (Nat.mod_lt _ (by decide))) nofun)

theorem isPrintable_unitEscape (code : Nat) : IsPrintable (unitEscape code) :=
  .cons rfl (.cons rfl (isPrintable_hexDigits 4 code))

theorem WrittenAs.isPrintable {character : Char} {text : Text}
    (written : WrittenAs character text) : IsPrintable text := by
  cases written with
  | short shown _ =>
      exact .cons rfl (.cons (isPrintable_iff.mpr shown) nofun)
  | plain shown _ _ => exact .cons (isPrintable_iff.mpr shown) nofun
  | code _ => exact isPrintable_unitEscape _
  | halves _ => exact (isPrintable_unitEscape _).append (isPrintable_unitEscape _)

/-- Whatever characters a text holds, it is written in printable ones. -/
theorem isPrintable_stringText (text : Text) : IsPrintable (stringText (.ofText text)) := by
  rw [stringText_ofText]
  refine .cons rfl (.append ?_ (.cons rfl nofun))
  intro written member
  obtain ⟨character, _, isWritten⟩ := List.mem_flatMap.mp member
  exact (writtenAs_stringChar character).isPrintable written isWritten

end Json

theorem Text.isPrintable_ofNat (number : Nat) : IsPrintable (ofNat number) :=
  forall_mem_ofNat (by decide) number

/-! ## Bodies -/

namespace SearchOrder

def json (query : Text) (limit : Nat) : Json :=
  .record [("query".toList, .ofText query), ("topK".toList, .ofNat limit)]

def body (query : Text) (limit : Nat) : List UInt8 :=
  (json query limit).compact.toUtf8

theorem ofJson_json (query : Text) (limit : Nat) :
    ofJson (json query limit) = .ok ⟨.ofText query, limit⟩ := rfl

theorem compact_json (query : Text) (limit : Nat) :
    (json query limit).compact =
      '\x7b' :: (Json.stringText (.ofText "query".toList) ++ ':' ::
        (Json.stringText (.ofText query) ++ ',' ::
          (Json.stringText (.ofText "topK".toList) ++ ':' ::
            (Text.ofNat limit ++ ['\x7d'])))) := by
  simp [json, Json.record, Json.ofNat, Json.ofText, Json.compact, Json.compactFields,
    Json.numberText, Text.ofInt]

theorem isPrintable_compact (query : Text) (limit : Nat) :
    (json query limit).compact.IsPrintable := by
  rw [compact_json]
  refine .cons rfl ((Json.isPrintable_stringText _).append (.cons rfl ?_))
  refine (Json.isPrintable_stringText _).append (.cons rfl ?_)
  refine (Json.isPrintable_stringText _).append (.cons rfl ?_)
  exact (Text.isPrintable_ofNat limit).append (.cons rfl nofun)

/-! ## Reading the body -/

open Json

variable {levels maxDigits : Nat}

theorem reads_compact_json (room : 0 < levels) (query : Text) (limit : Nat) :
    Reads levels maxDigits (.beforeValue [], .ofText (json query limit).compact)
      (.beforeValue [.object [(.ofText "query".toList, Json.ofText query)] (.ofText "topK".toList)],
        LooseText.ofText (Text.ofNat limit) ++ [.whole '\x7d']) := by
  have readsQuery : Spells maxDigits 0 (stringText (.ofText query)) (.ofText query) :=
    spells_text query
  rw [compact_json]
  simp only [LooseText.ofText_cons, LooseText.ofText_append, LooseText.ofText_nil]
  refine ((Enclosure.holds_objectIn room).opens _).trans ?_
  refine (reads_key levels [] _ [] _).trans ?_
  refine (readsQuery levels [.object [] _] _ room (endsValue_cons (by decide) _)).trans ?_
  refine (reads_mark rfl rfl rfl).trans ?_
  exact reads_key levels _ _ [] _

/-- An order is read if the number of results in it has no more digits than allowed. -/
theorem readBounded_compact_json (room : 0 < levels) (query : Text) (limit : Nat) :
    readBounded levels maxDigits (.ofText (json query limit).compact) =
      if (Text.ofNat limit).length ≤ maxDigits then .ok (json query limit)
      else .error .numeralTooLong := by
  have start : Reads levels maxDigits _ _ := reads_compact_json room query limit
  have ends : EndsValue [.whole '\x7d'] := endsValue_cons (by decide) []
  split
  · next short =>
      have fits : (Number.integer limit).fits maxDigits = true := decide_eq_true short
      have number : Spells maxDigits 0 (Text.ofNat limit) (.ofNat limit) := spells_number fits
      refine readBounded_of_reads ((start.trans (number levels _ _ room ends)).trans ?_)
      exact (Enclosure.holds_objectIn room).closes (_, _) _ []
  · next long =>
      have broken := spanToken_signed maxDigits false (startsWithDigit_ofNat limit) [.whole '\x7d']
      rw [spanNumber_ofNat ends, if_neg long] at broken
      obtain ⟨first, others, isCons, solid⟩ :=
        startsSolid_signed false (startsWithDigit_ofNat limit)
      simp only [Bool.false_eq_true, if_false] at broken isCons
      rw [isCons] at start broken
      exact readBounded_of_reads_broken solid start broken

/-- The order in a body is the one that was meant, unless its number has too many digits. -/
theorem ofBody_body (query : Text) (limit : Nat) :
    ofBody (body query limit) =
      if (Text.ofNat limit).length ≤ Text.maxDigits then .ok ⟨.ofText query, limit⟩
      else .error .unreadable := by
  have read : Json.read (.ofText (json query limit).compact) = _ :=
    readBounded_compact_json (by decide) query limit
  rw [ofBody, body, LooseText.ofBytes?_toUtf8 (isPrintable_compact query limit)]
  dsimp only
  rw [read]
  by_cases short : (Text.ofNat limit).length ≤ Text.maxDigits
  · rw [if_pos short, if_pos short]
    exact ofJson_json query limit
  · rw [if_neg short, if_neg short]

end SearchOrder

/-! ## Requests -/

def Request.ofOrder (query : Text) (limit : Nat) : Request :=
  { method := "POST".toList
    target := "/api/search".toList
    body := SearchOrder.body query limit }

theorem Router.lead_ofOrder (router : Router) (query : Text) (limit : Nat) :
    router.lead (.ofOrder query limit) = .search :=
  router.finds_search

/-- The request makes the order that was meant if its number has no more digits than allowed. -/
theorem Request.order?_ofOrder (router : Router) (query : Text) {limit : Nat}
    (short : (Text.ofNat limit).length ≤ Text.maxDigits) :
    (ofOrder query limit).order? router = some ⟨.ofText query, limit⟩ := by
  refine order?_eq_some_iff.mpr ⟨router.lead_ofOrder query limit, ?_⟩
  exact (SearchOrder.ofBody_body query limit).trans (if_pos short)

theorem Server.handle_ofOrder_of_long {σ : Type} (server : Server) (router : Router)
    (machine : Machine) (serviceStarts : Bool) (around : Surroundings σ) (query : Text)
    {limit : Nat} (long : ¬ (Text.ofNat limit).length ≤ Text.maxDigits) (state : σ) :
    server.handle router machine serviceStarts around (.ofOrder query limit) state =
      (server.answerWith (.ofBodyError .unreadable), state) := by
  have isRefused : SearchOrder.ofBody (Request.ofOrder query limit).body = .error .unreadable :=
    (SearchOrder.ofBody_body query limit).trans (if_neg long)
  rw [handle, router.lead_ofOrder]
  dsimp only
  rw [handleSearch]
  exact isRefused ▸ rfl

end SnippetSearch
