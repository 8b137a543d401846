import SearchCriteria.Proofs.JsonWriter
import SearchCriteria.Proofs.Runs

/-! Which runs print JSON. A number comes into what is printed as a boost or as a bound of a range,
and both may be infinite where they are read. What is printed is JSON when no criterion that is
compiled has such a number. -/
namespace SearchCriteria

/-- A criterion whose boost and bounds are finite. A boost that is no number is none. -/
structure Criterion.IsFinite (n : Criterion) : Prop where
  boost : ∀ negative, n.boost ≠ .infinite negative
  bounds : ∀ e ∈ n.entries, e.operation = .between → e.value.isFinite = true

/-- To be finite is to bring nothing but finite numbers into a query. -/
theorem Criterion.passes_finite_iff {n : Criterion} : n.Passes .finite ↔ n.IsFinite := by
  have boost : (n.boost.isNaN = false → PartTest.finite.leaf (.float n.boost) = true) ↔
      ∀ negative, n.boost ≠ .infinite negative := by
    cases n.boost <;> simp [Binary64.isNaN, PartTest.finite, Binary64.isFinite]
  exact ⟨fun passes => ⟨boost.mp passes.boost, passes.bounds⟩,
    fun finite => ⟨boost.mpr finite.boost, finite.bounds⟩⟩

namespace CommandLine
variable {c : Compiler} {node : Criterion} {chain : Chain} {q : Option Query} {w : Value}

/-- Where there is no query, either the last node says nothing or no criterion contributes. -/
theorem isFinite_rendering?_iff (standard : c.style = .standard)
    (accepted : ∀ n ∈ chain, n.Accepted) (compiled : (c.compile node chain).result = .ok q)
    (rendered : rendering? q = .ok w) : w.isFinite = true ↔
      node.entries = [] ∨ ∀ n ∈ chain, n.Contributes → n.IsFinite := by
  cases q with
  | some q =>
    have said : node.entries ≠ [] := by
      intro silent
      simp [Compiler.compile, Compiler.clauses, silent] at compiled
    rw [or_iff_right said, Value.isFinite, PartTest.passes_render? _ q w rendered,
      Compiler.queryPasses_compile_iff standard accepted compiled]
    simp only [Criterion.passes_finite_iff]
  | none =>
    cases rendered
    refine iff_of_true rfl (or_iff_not_imp_left.mpr fun said n listed contributes => ?_)
    obtain ⟨fragments, none⟩ := Compiler.compile_eq_ok said compiled
    split at none
    · rename_i empty
      obtain ⟨f, some⟩ := (Compiler.contributes_iff_of_fragment (fragments n listed)).mp contributes
      rw [(Clauses.routed_isEmpty_iff _ chain).mp empty n listed] at some
      cases some
    · cases none

/-- What a run prints is one text of JSON and a line feed exactly when all criteria that contribute
to the query are finite, or when the last node says nothing, so that there is no query. This is so
whatever reads the documents that are no JSON. -/
theorem printed_isText_iff (l : Logger) (environment : Option String) (loader : Loader)
    (arguments : List String) (text : String)
    (printed : (runFrom l environment loader arguments).1 = .printed text) :
    ∃ o chain t, Options.ofArguments arguments = .ok o ∧ o.Describes loader chain ∧
      text = t ++ "\n" ∧ (Json.IsText t.toList ↔
        (chain.getLastD default).entries = [] ∨ ∀ n ∈ chain, n.Contributes → n.IsFinite) := by
  obtain ⟨o, accepted, _, d, v, chain, q, w, width, t, _, _, loaded, read, compiled, rendered, _,
    written, rfl⟩ := answers_of_run printed
  refine ⟨o, chain, t, accepted, ⟨v, loaded, read⟩, rfl, ?_⟩
  unfold Json.render? at written
  split at written
  · rw [Json.Style.isText_write?_iff written]
    exact isFinite_rendering?_iff rfl (Chain.accepted_of_ofPlain? read) compiled rendered
  · cases written

theorem printed_isText_sample :
    let t := "\x7b\"bool\": \x7b\"must\": [\x7b\"fuzzy\": \x7b\"type\": " ++
      "\x7b\"value\": \"inn\"\x7d\x7d\x7d]\x7d\x7d"
    let loader := Loader.ofFiles (filesOf "\"type\"" "\"inn\"")
    (runFrom .untouched none loader ["compile", "chain.json"]).1 = .printed (t ++ "\n") ∧
      Json.IsText t.toList := by
  intro t loader
  have printed : (runFrom .untouched none loader ["compile", "chain.json"]).1 =
      .printed (t ++ "\n") := by
    decide +kernel
  refine ⟨printed, ?_⟩
  obtain ⟨o, chain, u, accepted, ⟨v, loaded, read⟩, same, json⟩ :=
    printed_isText_iff .untouched none loader ["compile", "chain.json"] (t ++ "\n") printed
  have asked : Options.ofArguments ["compile", "chain.json"] =
      .ok ⟨"chain.json", none, none, none⟩ := by
    decide +kernel
  cases asked.symm.trans accepted
  have described : (Document.load? loader .criteria "chain.json" >>= Chain.ofPlain?) =
      .ok [⟨.text "type", [⟨.fuzzy, .text "inn"⟩], .plainNaN, false, false⟩] := by
    decide +kernel
  rw [loaded, ok_bind, read] at described
  cases described
  rw [String.append_left_inj] at same
  rw [same]
  refine json.mpr (.inr fun n listed _ => ?_)
  cases List.mem_singleton.mp listed
  exact ⟨nofun, by simp⟩

/-- Files that all hold a criterion, the boost of which is given as it stands in its document. -/
def boostedFiles (boost : String) : Files := fun _ =>
  .ok ("\x7b\"field\": \"type\", \"boost\": " ++ boost ++ ", \"entries\": " ++
    "[\x7b\"key\": \"fuzzy\", \"value\": \"inn\"\x7d]\x7d").toUTF8.data.toList

/-- An infinite boost is taken and printed, under a name that JSON does not have. -/
theorem infinity_printed :
    let t := "\x7b\"bool\": \x7b\"must\": [\x7b\"fuzzy\": \x7b\"type\": " ++
      "\x7b\"value\": \"inn\", \"boost\": Infinity\x7d\x7d\x7d]\x7d\x7d"
    (run none (boostedFiles "Infinity") ["compile", "chain.json"]).1 = .printed (t ++ "\n") ∧
      ¬ Json.IsText t.toList := by
  intro t
  let v := named "bool" (.map [(.text "must", .list [named "fuzzy" (named "type"
    (.map [(.text "value", .text "inn"), (.text "boost", .float (.infinite false))]))])])
  have written : Json.Style.write? ⟨none, true⟩ 0 v = .ok t := by
    decide +kernel
  refine ⟨by decide +kernel, ?_⟩
  rw [Json.Style.isText_write?_iff written]
  decide

end CommandLine

end SearchCriteria
