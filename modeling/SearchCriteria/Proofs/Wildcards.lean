import SearchCriteria.Proofs.Spacing
import SearchCriteria.Proofs.Terms

/-! White space in terms with wildcards. A text is kept out of such a term when it has white space
in it. A value of another kind is not looked at, and is written out with the white space of its
form. -/
namespace SearchCriteria

section Pattern
variable {op : Operation} {t term : String}

/-- Wildcards are no white space. -/
theorem hasBlank_pattern (pattern : op.pattern? t = some term) : hasBlank term = hasBlank t := by
  have star : hasBlank "*" = false := by decide
  cases op with
  | contains | startsWith | endsWith =>
    cases pattern
    simp only [hasBlank_append, star, Bool.false_or, Bool.or_false]
  | equals | expression | between | fuzzy | oneOf => contradiction

theorem single_of_pattern (pattern : op.pattern? t = some term) : op ≠ .oneOf := by
  rintro rfl
  contradiction

/-- A text under an operation that makes such a term has no white space in it. -/
theorem Entry.not_blank_of_pattern {e : Entry} {s : String} (accepted : e.Accepted)
    (pattern : e.operation.pattern? t = some term) (word : e.value = .text s) :
    hasBlank s = false := by
  unfold Entry.Accepted at accepted
  split at accepted
  · exact accepted s word
  · exact accepted s word
  · exact accepted s word
  all_goals
    rename_i operation
    rw [operation] at pattern
    contradiction

end Pattern

namespace Store

/-- Terms with wildcards in a chain that calls have made. Such a term holds the text of its value
and stands at its place in what the chain is rendered as. It has white space in it exactly when the
value is one that is written with white space, and no text is. -/
theorem wildcard_spaced (s : Store) (reached : Reachable s) (i : NodeId)
    (there : i < s.nodes.size) (c : Compiler) (standard : c.style = .standard) (q : Query)
    (compiled : (c.compile (s.node i).toCriterion (s.criteria i)).result = .ok (some q)) :
    ∀ n ∈ s.criteria i, ∀ e ∈ n.entries, e.value ≠ .null →
      ∀ term, e.operation.pattern? e.value.plain = some term →
      (∃ w args, c.rendered? n e = .ok (some w) ∧ (∀ v, q.render? = .ok v → w ∈ v.leaves) ∧
        w.arguments? = some ("query_string", args) ∧
        Entries.named? "query" args = some (.text term)) ∧
      hasBlank term = e.value.isSpaced ∧
      ∀ t, e.value = .text t → hasBlank term = false := by
  intro n listed e entry present term pattern
  have accepted := ((sound_of_reachable reached).accepted_criteria there n listed).entries e entry
  have blank := hasBlank_pattern pattern
  rw [Value.hasBlank_plain] at blank
  refine ⟨?_, blank, fun t word => ?_⟩
  · obtain ⟨field, p, resolved, made, whole⟩ :=
      Compiler.standard?_of_compile standard compiled listed entry present
    obtain ⟨name, mark, rfl⟩ := Compiler.field_of_pattern pattern whole
    have shown : c.rendered? n e = .ok (some (Leaf.field ⟨.null, name, .text term, mark⟩).render) :=
      (rendered?_eq_some_iff resolved).mpr ⟨_, made, rfl⟩
    exact ⟨_, _, shown, fun v rendered => Compiler.mem_leaves_of_entry standard compiled rendered
      listed entry (single_of_pattern pattern) shown, rfl, rfl⟩
  · rw [blank, word]
    exact e.not_blank_of_pattern accepted pattern word

/-- A word, and a list that is taken for one. -/
def listedStore : Store :=
  run empty [.create (.text "name") false none, .constrain 0 (.endsWith (.text "inn")),
    .constrain 0 (.contains (.list [.text "a", .text "b"])), .constrain 0 (.contains (.text "a b"))]

theorem wildcard_spaced_sample :
    let c := Compiler.ofConfig .default
    Reachable listedStore ∧ 0 < listedStore.nodes.size ∧ c.style = .standard ∧
      hasBlank "*inn" = false ∧ hasBlank "*['a', 'b']*" = true ∧ ∃ q v w,
      (c.compile (listedStore.node 0).toCriterion (listedStore.criteria 0)).result =
        .ok (some q) ∧ q.render? = .ok v ∧ w ∈ v.leaves ∧
      w = named "query_string" (.map [(.text "query", .text "*['a', 'b']*"),
        (.text "default_field", .text "name"), (.text "analyze_wildcard", .bool true)]) := by
  intro c
  have reached : Reachable listedStore := reachable_run .empty (by decide)
  have there : 0 < listedStore.nodes.size := by decide
  have spaced := wildcard_spaced listedStore reached 0 there c rfl _ rfl _ List.mem_cons_self
  obtain ⟨_, _, word⟩ := spaced ⟨.endsWith, .text "inn"⟩ List.mem_cons_self nofun "*inn" rfl
  obtain ⟨⟨w, args, shown, leaf, _⟩, list, _⟩ := spaced ⟨.contains, .list [.text "a", .text "b"]⟩
    (List.mem_cons_of_mem _ List.mem_cons_self) nofun "*['a', 'b']*" (by decide +kernel)
  refine ⟨reached, there, rfl, word "inn" rfl, list, _, _, w, rfl, rfl, leaf _ rfl, ?_⟩
  have same : c.rendered? (listedStore.node 0).toCriterion
      ⟨.contains, .list [.text "a", .text "b"]⟩ = .ok (some (named "query_string"
        (.map [(.text "query", .text "*['a', 'b']*"), (.text "default_field", .text "name"),
          (.text "analyze_wildcard", .bool true)]))) := by
    decide +kernel
  exact Option.some.inj (Except.ok.inj (shown.symm.trans same))

/-- A list under wildcards is searched for as it is written, with the spaces behind its commas. -/
theorem wildcard_of_list :
    let s := run empty [.create (.text "name") false none,
      .constrain 0 (.contains (.list [.text "a", .text "b"]))]
    Reachable s ∧ ∃ q, ((Compiler.ofConfig .default).compile (s.node 0).toCriterion
        (s.criteria 0)).result = .ok (some q) ∧
      q.leaves? = .ok [named "query_string" (.map [(.text "query", .text "*['a', 'b']*"),
        (.text "default_field", .text "name"), (.text "analyze_wildcard", .bool true)])] ∧
      hasBlank "*['a', 'b']*" = true := by
  intro s
  have reached : Reachable s := reachable_run .empty (by decide)
  exact ⟨reached, _, rfl, by decide +kernel, by decide +kernel⟩

end Store
end SearchCriteria
