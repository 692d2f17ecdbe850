import TagQuery.Language.Occurrence
import TagQuery.Proofs.Expr.Leaves
import TagQuery.Proofs.Language.Recognition

/-!
# The leaves of a query are the tags in its text

* `IsQuery.hasTags`: the text of a query has the leaves of its expression as tags, in this order.
* `HasTags.of_mark`, `HasTags.of_keyword`, `HasTags.of_tag`: the first character of a text says what
  it begins with, so a text has its tags in one order only (`HasTags.unique`).
-/

namespace TagQuery

variable {limit level : Nat} {text rest word : List Char} {c : Char} {t : Tag} {k : Keyword}
  {tags tags' : List Tag} {e : Expr}

/-! ## The tags of a query -/

namespace HasTags

theorem spaces (count : Nat) (h : HasTags rest tags) : HasTags (spaces count ++ rest) tags := by
  induction count with
  | zero => exact h
  | succ count ih => exact .mark (by decide) ih

/-- A keyword with the spaces around it has no tags. -/
theorem joint (hword : (Terminal.keyword k).Matches word) (before after : Nat)
    (h : HasTags rest tags) :
    HasTags (TagQuery.spaces before ++ word ++ TagQuery.spaces after ++ rest) tags := by
  rw [List.append_assoc, List.append_assoc]
  exact ((h.spaces after).keyword hword).spaces before

end HasTags

mutual

theorem IsOperand.hasTags {limit level : Nat} {text rest : List Char} {e : Expr} {tags : List Tag}
    (htags : HasTags rest tags) :
    IsOperand limit level text e rest → HasTags text (e.leaves ++ tags)
  | .tag _ htag => .tag htag htags
  | .group _ hquery => .mark (by decide) (hquery.hasTags (.mark (by decide) htags))

/-- The text of a query has the leaves of its expression as tags. -/
theorem IsQuery.hasTags {limit level : Nat} {text rest : List Char} {e : Expr} {tags : List Tag}
    (htags : HasTags rest tags) :
    IsQuery limit level text e rest → HasTags text (e.leaves ++ tags)
  | .operand h => h.hasTags htags
  | .negation hword h => (h.hasTags htags).joint hword _ _
  | .binary hleft hword hright => by
    rw [Expr.leaves, List.append_assoc]
    exact hleft.hasTags ((hright.hasTags htags).joint hword _ _)

end

/-! ## Only these tags -/

/-- The marks between tags. -/
def tagMarks : List Char :=
  [' ', '(', ')']

theorem IsTag.head_not_mem (h : IsTag text t rest) : ∀ c ∈ text.head?, c ∉ '+' :: tagMarks := by
  have hdisjoint : ∀ c ∈ tagOpenings, c ∉ '+' :: tagMarks := by simp [tagOpenings, tagMarks]
  obtain ⟨d, hd, hhead⟩ := h.head_mem
  intro c hc
  cases hhead.symm.trans hc
  exact hdisjoint d hd

/-- A keyword begins like neither a mark nor a tag. -/
theorem Terminal.head_not_mem (h : (Terminal.keyword k).Matches word) :
    ∀ c ∈ (word ++ rest).head?, c ∉ '+' :: (tagMarks ++ tagOpenings) := by
  have hsubset : ∀ c ∈ '+' :: (tagMarks ++ tagOpenings),
      c ∈ ' ' :: (operandOpenings ++ ['+', ')']) := by
    simp [tagMarks, tagOpenings, operandOpenings]
  obtain ⟨d, letters, rfl, hupper⟩ := Terminal.exists_cons_of_matches h
  intro c hc hmem
  cases hc
  exact not_mem_of_toUpper hupper (hsubset _ hmem)

namespace HasTags

theorem head_ne_plus (h : HasTags text tags) : text.head? ≠ some '+' := by
  intro hplus
  cases h with
  | nil => cases hplus
  | mark hmark => cases hplus; exact absurd hmark (by decide)
  | keyword hword => exact Terminal.head_not_mem hword '+' hplus List.mem_cons_self
  | tag htag => exact htag.head_not_mem '+' hplus List.mem_cons_self

/-- A mark has no tags. -/
theorem of_mark (hc : c ∈ tagMarks) (h : HasTags (c :: rest) tags) : HasTags rest tags := by
  generalize htext : c :: rest = text at h
  cases h with
  | nil => cases htext
  | mark _ hrest =>
    obtain ⟨-, rfl⟩ := List.cons.inj htext
    exact hrest
  | keyword hword =>
    refine absurd ?_ (Terminal.head_not_mem hword c (by rw [← htext]; rfl))
    exact List.mem_cons_of_mem _ (List.mem_append_left _ hc)
  | tag htag =>
    refine absurd ?_ (htag.head_not_mem c (by rw [← htext]; rfl))
    exact List.mem_cons_of_mem _ hc

/-- A keyword has no tags. -/
theorem of_keyword (hword : (Terminal.keyword k).Matches word) (h : HasTags (word ++ rest) tags) :
    HasTags rest tags := by
  have hhead : ∀ c ∈ (word ++ rest).head?, c ∉ '+' :: (tagMarks ++ tagOpenings) :=
    Terminal.head_not_mem hword
  generalize htext : word ++ rest = text at h hhead
  cases h with
  | nil =>
    obtain ⟨c, letters, rfl, -⟩ := Terminal.exists_cons_of_matches hword
    cases htext
  | mark hmark =>
    refine absurd ?_ (hhead _ rfl)
    exact List.mem_cons_of_mem _ (List.mem_append_left _ hmark)
  | keyword hword' hrest =>
    obtain ⟨-, rfl⟩ := Terminal.eq_of_matches hword hword' htext
    exact hrest
  | tag htag =>
    obtain ⟨c, hc, hopens⟩ := htag.head_mem
    refine absurd ?_ (hhead c hopens)
    exact List.mem_cons_of_mem _ (List.mem_append_right _ hc)

/-- A tag that no `+` follows is the first one. -/
theorem of_tag (htag : IsTag text t rest) (hrest : rest.head? ≠ some '+') (h : HasTags text tags) :
    ∃ others, tags = t :: others ∧ HasTags rest others := by
  have hhead := htag.head_not_mem
  cases h with
  | nil =>
    obtain ⟨c, -, hopens⟩ := htag.head_mem
    cases hopens
  | mark hmark => exact absurd (List.mem_cons_of_mem _ hmark) (hhead _ rfl)
  | keyword hword =>
    obtain ⟨c, hc, hopens⟩ := htag.head_mem
    refine absurd ?_ (Terminal.head_not_mem hword c hopens)
    exact List.mem_cons_of_mem _ (List.mem_append_right _ hc)
  | tag htag' hothers =>
    obtain ⟨rfl, rfl⟩ :=
      Parser.Reads.unique (Parser.reads_tag htag hrest)
        (Parser.reads_tag htag' hothers.head_ne_plus)
    exact ⟨_, rfl, hothers⟩

/-- A text has its tags in one order only. -/
theorem unique (h : HasTags text tags) (h' : HasTags text tags') : tags = tags' := by
  induction h generalizing tags' with
  | nil =>
    generalize htext : ([] : List Char) = text at h'
    cases h' with
    | nil => rfl
    | mark => cases htext
    | keyword hword =>
      obtain ⟨c, letters, rfl, -⟩ := Terminal.exists_cons_of_matches hword
      cases htext
    | tag htag =>
      obtain ⟨c, -, hopens⟩ := htag.head_mem
      rw [← htext] at hopens
      cases hopens
  | mark hmark _ ih => exact ih (h'.of_mark hmark)
  | keyword hword _ ih => exact ih (h'.of_keyword hword)
  | tag htag hothers ih =>
    obtain ⟨others, rfl, hothers'⟩ := h'.of_tag htag hothers.head_ne_plus
    rw [ih hothers']

end HasTags

/-! ## Chains -/

/-- A chain is a query, and has the leaves of its parts. -/
theorem IsChain.isQuery {parts : List Expr} (h : IsChain limit level text parts rest) :
    ∃ e, IsQuery limit level text e rest ∧ e.leaves = parts.flatMap Expr.leaves := by
  induction h with
  | @operand _ _ e _ hoperand => exact ⟨e, .operand hoperand, by simp⟩
  | negation hword hoperand => exact ⟨_, .negation hword hoperand, by simp⟩
  | link hleft hword _ ih =>
    obtain ⟨right, hright, hleaves⟩ := ih
    exact ⟨_, .binary hleft hword hright, by rw [Expr.leaves, hleaves, List.flatMap_cons]⟩

/-- Every query is a chain, if only of one part. -/
theorem IsQuery.exists_isChain {limit level : Nat} {text rest : List Char} {e : Expr} :
    IsQuery limit level text e rest → ∃ parts, IsChain limit level text parts rest
  | .operand h => ⟨_, .operand h⟩
  | .negation hword h => ⟨_, .negation hword h⟩
  | .binary hleft hword hright => by
    obtain ⟨parts, hparts⟩ := hright.exists_isChain
    exact ⟨_, .link hleft hword hparts⟩

/-- Wherever a chain stands in a query, the reader takes it as an expression with the leaves of its
parts. -/
theorem IsChain.reads {levels : Nat} {parts : List Expr} (hlevels : level + levels = limit + 1)
    (h : IsChain limit level text parts rest) (hrest : Parser.Closes rest) :
    ∃ e, Parser.Reads (Parser.query levels) text e rest ∧
      e.leaves = parts.flatMap Expr.leaves := by
  obtain ⟨e, hquery, hleaves⟩ := h.isQuery
  exact ⟨e, Parser.reads_query hlevels hquery hrest, hleaves⟩

/-! ## Accepted queries -/

namespace Grammar

variable {g : Grammar} {text : String}

theorem hasTags_iff_of_parse (h : g.parse text = .ok e) :
    HasTags text.toList tags ↔ tags = e.leaves := by
  have htags : HasTags text.toList (e.leaves ++ []) := (isQuery_of_parse h).hasTags .nil
  rw [List.append_nil] at htags
  exact ⟨fun h => h.unique htags, fun h => h ▸ htags⟩

theorem leaves_of_isChain {parts : List Expr} (h : g.parse text = .ok e)
    (hchain : IsChain g.maxDepth 0 text.toList parts []) :
    e.leaves = parts.flatMap Expr.leaves := by
  obtain ⟨e', hquery, hleaves⟩ := hchain.isQuery
  rw [parse_of_isQuery hquery] at h
  cases h
  exact hleaves

end Grammar

/-- **Tags are listed from left to right.** The visit of an expression ends, after as many rounds as
the expression has nodes, and lists its leaves. For a query that is accepted these are the tags in its
text, in the order in which they occur there. If the query is a chain they are the leaves of its
parts, one part after another, and so they are for a chain anywhere inside a query, whatever level
the reader is on. -/
theorem tags_from_left_to_right :
    (∀ e : Expr, e.tags = e.leaves ∧ Expr.Visit.run e.size (.start e) = ⟨e.tags, []⟩ ∧
      ∀ rounds < e.size, (Expr.Visit.run rounds (.start e)).pending ≠ []) ∧
    (∀ (g : Grammar) (text : String) (e : Expr), g.parse text = .ok e →
      (∀ tags, HasTags text.toList tags ↔ tags = e.tags) ∧
      (∃ parts, IsChain g.maxDepth 0 text.toList parts []) ∧
      ∀ parts, IsChain g.maxDepth 0 text.toList parts [] → e.tags = parts.flatMap Expr.leaves) ∧
    ∀ (limit level levels : Nat) (text rest : List Char) (parts : List Expr),
      level + levels = limit + 1 → IsChain limit level text parts rest → Parser.Closes rest →
        ∃ e, Parser.Reads (Parser.query levels) text e rest ∧
          e.tags = parts.flatMap Expr.leaves := by
  refine ⟨fun e => ?_, fun g text e h => ?_, fun limit level levels text rest parts => ?_⟩
  · rw [Expr.tags_eq_leaves]
    exact ⟨rfl, Expr.Visit.run_size e, fun _ => Expr.Visit.pending_run_ne_nil⟩
  · rw [Expr.tags_eq_leaves]
    have hchain := (Grammar.isQuery_of_parse h).exists_isChain
    exact ⟨fun _ => Grammar.hasTags_iff_of_parse h, hchain, fun _ => Grammar.leaves_of_isChain h⟩
  · intro hlevels hchain hrest
    obtain ⟨e, hreads, hleaves⟩ := hchain.reads hlevels hrest
    exact ⟨e, hreads, by rw [Expr.tags_eq_leaves, hleaves]⟩

end TagQuery
