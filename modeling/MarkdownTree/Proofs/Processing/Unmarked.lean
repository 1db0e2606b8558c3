import MarkdownTree.Proofs.Processing.AlertLinks
import MarkdownTree.Proofs.Processing.AlertRun
import MarkdownTree.Proofs.Processing.Idle

/-! Unmarked documents: a walk for alerts leaves no marked quote, so another one has nothing to do.
-/

namespace MarkdownTree.Alert

variable {doc other : Document} {quote : NodeId} {journal : Journal} {progress : Progress}

/-- The quotes that a document marks as alerts, in order. -/
def markedQuotes (doc : Document) : List NodeId :=
  (doc.children Document.root).filter fun id => (process doc id).isSome

/-- A quote is marked where it gets a patch. -/
theorem mem_markedQuotes (wf : doc.WellFormed) :
    quote ∈ markedQuotes doc ↔ (process doc quote).isSome := by
  rw [markedQuotes, List.mem_filter]
  -- What gets a patch hangs from the root.
  refine and_iff_right_of_imp fun answer => ?_
  exact wf.linked.parent.mp (parent_of_process wf answer)

/-- A quote without a patch is not marked. -/
theorem not_mem_markedQuotes (none : process doc quote = none) : quote ∉ markedQuotes doc := by
  intro member
  have answer := (List.mem_filter.mp member).2
  rw [none] at answer
  cases answer

/-- A walk for alerts goes through block quotes of the store. -/
theorem quote_of_candidate (wf : doc.WellFormed) :
    ∀ id ∈ ProcessorSet.candidates [processor] doc, id < doc.size ∧ doc.kind id = .blockQuote := by
  intro id member
  obtain ⟨met, tag⟩ := List.mem_filter.mp member
  exact ⟨wf.lt_size_of_isAttached (wf.mem_descendants_root.mp met), handles_iff.mp tag⟩

/-- At any point of its way, a walk for alerts has replaced the quotes among the nodes visited that
were marked at the start. -/
theorem done_before (wf : doc.WellFormed) (journal : Journal) {before after : List NodeId}
    (split : ProcessorSet.candidates [processor] doc = before ++ after) :
    Done doc journal (before.filter fun id => (process doc id).isSome)
      (before.foldl (ProcessorSet.visit [processor]) { doc, journal }) := by
  have start : Done doc journal [] { doc, journal } :=
    ⟨.refl wf, rfl, rfl, (List.append_nil journal).symm⟩
  have distinct : (ProcessorSet.candidates [processor] doc).Nodup :=
    (wf.descendants_nodup _).filter _
  rw [split] at distinct
  -- No quote is replaced yet when the walk starts.
  have fresh : ([] ++ before).Nodup := (List.nodup_append.mp distinct).1
  exact start.walk wf before (fun id member => quote_of_candidate wf id (by simp [split, member]))
    fresh

/-- A walk for alerts replaces the marked quotes. -/
theorem run_rewritten (wf : doc.WellFormed) (journal : Journal) :
    Rewritten doc (markedQuotes doc) (ProcessorSet.run [processor] doc journal).doc := by
  have done := done_before wf journal (List.append_nil _).symm
  rw [ProcessorSet.candidates, filter_candidates wf] at done
  exact done.rewritten

section

variable (wf : doc.WellFormed) (rewritten : Rewritten doc (markedQuotes doc) other)
include wf rewritten

/-- A block quote below the root is one that was there before and was not replaced. -/
theorem Rewritten.waiting (kind : other.kind quote = .blockQuote)
    (parent : other.parent quote = some Document.root) : quote < doc.size ∧
      doc.parent quote = some Document.root ∧ process doc quote = none := by
  -- A block quote is no alert, so it is old; and a quote that was replaced hangs from nothing.
  have stored := rewritten.stored_of_kind (Document.lt_size_of_parent parent)
    fun alert => by simp [kind]
  have fresh : quote ∉ markedQuotes doc := by
    intro member
    rw [rewritten.parent_quote wf member] at parent
    cases parent
  refine ⟨stored, (rewritten.parent_root_iff wf stored fresh).mp parent, ?_⟩
  rw [mem_markedQuotes wf] at fresh
  simpa using fresh

/-- No quote is marked any more once the alerts are there. -/
theorem Rewritten.unmarked (quote : NodeId) : process other quote = none := by
  rw [← Option.not_isSome_iff_eq_none, isSome_process_iff rewritten.wellFormed]
  rintro ⟨paragraph, blocks, alert, marked⟩
  obtain ⟨stored, _, none⟩ := rewritten.waiting wf marked.kind marked.parent
  -- It would have been marked in the same way before.
  have marked' := (rewritten.marked_iff wf stored (not_mem_markedQuotes none)).mp marked
  have answer := (isSome_process_iff wf).mpr ⟨paragraph, blocks, alert, marked'⟩
  rw [none] at answer
  cases answer

/-- Once the alerts are there, a walk for alerts has nothing to answer. -/
theorem Rewritten.silent : ProcessorSet.Silent [processor] other := by
  intro node _ asked listed
  obtain ⟨only, _⟩ := ProcessorSet.mem_forTag.mp listed
  rw [List.mem_singleton.mp only]
  exact rewritten.unmarked wf node

end

/-- On its way through quotes of which some are replaced, a walk finds the next one marked exactly if
it was marked at the start. -/
theorem Done.marked_iff (wf : doc.WellFormed) {quotes : List NodeId}
    (done : Done doc journal quotes progress) (stored : quote < doc.size) (fresh : quote ∉ quotes) :
    (process progress.doc quote).isSome ↔ (process doc quote).isSome := by
  rw [isSome_process_iff done.rewritten.wellFormed, isSome_process_iff wf]
  exact exists₃_congr fun _ _ _ => done.rewritten.marked_iff wf stored fresh

/-- When a walk for alerts comes to a quote, that is marked exactly if it was at the start. -/
theorem marked_when_met (wf : doc.WellFormed) (journal : Journal) {before after : List NodeId}
    (split : ProcessorSet.candidates [processor] doc = before ++ quote :: after) :
    (process (before.foldl (ProcessorSet.visit [processor]) { doc, journal }).doc quote).isSome =
      (process doc quote).isSome := by
  have distinct : (ProcessorSet.candidates [processor] doc).Nodup :=
    (wf.descendants_nodup _).filter _
  rw [split] at distinct
  -- The nodes before it in the walk are other nodes.
  have fresh : quote ∉ before.filter fun id => (process doc id).isSome := fun member =>
    (List.nodup_append.mp distinct).2.2 quote (List.mem_of_mem_filter member) quote
      List.mem_cons_self rfl
  obtain ⟨stored, _⟩ := quote_of_candidate wf quote (by simp [split])
  exact Bool.eq_iff_iff.mpr ((done_before wf journal split).marked_iff wf stored fresh)

/-- A walk for alerts comes to a quote when all before it are visited, and asks once. -/
theorem asked_iff (wf : doc.WellFormed) :
    ProcessorSet.Asked [processor] doc journal progress processor quote ↔
      ∃ before after, ProcessorSet.candidates [processor] doc = before ++ quote :: after ∧
        progress = before.foldl (ProcessorSet.visit [processor]) { doc, journal } ∧
        progress.doc.isAttached quote := by
  -- The quote is a block quote all the way, and for these the processor is the only one.
  have alone : ∀ {before after}, ProcessorSet.candidates [processor] doc = before ++ quote :: after →
      ProcessorSet.forTag [processor]
        ((before.foldl (ProcessorSet.visit [processor]) { doc, journal }).doc.kind quote).tag =
          [processor] := by
    intro before after split
    have keeps := (done_before wf journal split).rewritten.keepsNodes
    obtain ⟨stored, kind⟩ := quote_of_candidate wf quote (by simp [split])
    rw [keeps.kind quote stored, kind]
    rfl
  constructor
  · rintro ⟨⟨before, after, split, earlier, later, processors, same, _⟩, _, attached⟩
    rw [alone split] at processors
    -- So nobody is asked about it before.
    have none : earlier = [] := by
      cases earlier with
      | nil => rfl
      | cons _ rest => simp at processors
    subst none
    exact ⟨before, after, split, same, attached⟩
  · rintro ⟨before, after, split, rfl, attached⟩
    have done := done_before wf journal split
    exact ⟨⟨before, after, split, [], [], alone split, rfl, rfl⟩, done.refusal, attached⟩

/--
A walk for alerts leaves nothing for a second one.

It asks about every quote that is marked at the start, and whenever it asks about a quote, that is
marked exactly if it was at the start: the quotes replaced before make no difference to it. In the
end the marked quotes hang from nothing, and no node at all is marked. So a second walk makes no
patch, reports nothing and leaves the document as it is.
-/
theorem second_alert_walk_idle {doc : Document} (reachable : doc.Reachable)
    (journal journal' : Journal) :
    let first := ProcessorSet.run [processor] doc journal
    let second := ProcessorSet.run [processor] first.doc journal'
    (∀ quote, (process doc quote).isSome →
      (∃ progress, ProcessorSet.Asked [processor] doc journal progress processor quote) ∧
        first.doc.parent quote = none) ∧
    (∀ progress quote, ProcessorSet.Asked [processor] doc journal progress processor quote →
      ((process progress.doc quote).isSome ↔ (process doc quote).isSome)) ∧
    (∀ node, process first.doc node = none) ∧
    second.refusal = none ∧ second.patched = 0 ∧ second.journal = journal' ∧
      second.doc = first.doc := by
  intro first second
  have wf := reachable.wellFormed
  have rewritten := run_rewritten wf journal
  refine ⟨fun quote answer => ⟨?_, ?_⟩, ?_, rewritten.unmarked wf, ?_⟩
  · obtain ⟨_, _, _, marked⟩ := (isSome_process_iff wf).mp answer
    have member : quote ∈ ProcessorSet.candidates [processor] doc :=
      List.mem_filter.mpr ⟨wf.mem_descendants_root.mpr (wf.isAttached_of_parent marked.parent),
        handles_iff.mpr marked.kind⟩
    obtain ⟨before, after, split⟩ := List.append_of_mem member
    -- A quote that is marked hangs from the root, so it is asked about.
    have wf' := (done_before wf journal split).rewritten.wellFormed
    obtain ⟨_, _, _, marked'⟩ := (isSome_process_iff wf').mp
      ((marked_when_met wf journal split).trans answer)
    exact ⟨_, (asked_iff wf).mpr ⟨before, after, split, rfl,
      wf'.isAttached_of_parent marked'.parent⟩⟩
  · exact rewritten.parent_quote wf ((mem_markedQuotes wf).mpr answer)
  · intro progress quote asked
    obtain ⟨before, after, split, rfl, _⟩ := (asked_iff wf).mp asked
    rw [marked_when_met wf journal split]
  · -- What has nothing to answer in the whole document leaves it as it is.
    obtain ⟨visited, idle⟩ := ProcessorSet.run_of_silent (rewritten.silent wf) journal'
    have ends : second = _ := idle
    rw [ends]
    exact ⟨rfl, rfl, rfl, rfl⟩

/-- A tip becomes an alert in the first walk, and a caution without content is looked at and left in
both. -/
theorem tip_replaced_once :
    let doc := List.foldl Document.after (.ofSource "> [!TIP]\n> body\n\n> [!CAUTION]")
      [.create .blockQuote ⟨0, 16⟩, .create .paragraph ⟨2, 16⟩, .create (.text "[!TIP]") ⟨2, 8⟩,
        .create .softBreak ⟨8, 9⟩, .create (.text "body") ⟨11, 15⟩,
        .create .blockQuote ⟨17, 29⟩, .create .paragraph ⟨19, 29⟩,
        .create (.text "[!CAUTION]") ⟨19, 29⟩, .move (.append Document.root 1),
        .move (.append 1 2), .move (.append 2 3), .move (.append 2 4), .move (.append 2 5),
        .move (.append Document.root 6), .move (.append 6 7), .move (.append 7 8)]
    let first := ProcessorSet.run [processor] doc []
    let second := ProcessorSet.run [processor] first.doc first.journal
    first.visited = 2 ∧ first.patched = 1 ∧ first.doc.children Document.root = [9, 6] ∧
      second.visited = 1 ∧ second.patched = 0 ∧ second.journal = first.journal ∧
      second.doc = first.doc := by
  intro doc first second
  obtain ⟨_, _, _, _, patched, reported, same⟩ :=
    @second_alert_walk_idle doc ⟨_, _, rfl⟩ [] first.journal
  exact ⟨by decide +kernel, by decide +kernel, by decide +kernel, by decide +kernel, patched,
    reported, same⟩

end MarkdownTree.Alert
