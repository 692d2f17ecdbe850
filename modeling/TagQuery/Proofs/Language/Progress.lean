import TagQuery.Proofs.Parser.Composed

/-!
# How far the rules get

* A rule passes over the text that it reads and goes on from there (`Parser.forward_query`), and an
  operand has a character at least (`Parser.consumes_tagOrGroup`). So the text gets shorter from an
  operand to the next.
* Levels are counted from operand to operand, never inside a tag (`Parser.flat_tag`) or an operator
  (`Parser.flat_operator`).
-/

namespace TagQuery.Parser

variable {inner : Parser Expr}

/-! ## Tags -/

theorem consumes_symbol (s : Symbol) : Consumes (symbol s) := by
  refine consumes_terminal ?_
  rcases s with kind | _ | _ | _ | _ | _
  · cases kind <;> decide
  all_goals decide

theorem consumes_keyword (k : Keyword) : Consumes (keyword k) := by
  refine consumes_terminal ?_
  rcases k with op | _
  · cases op <;> decide
  · decide

theorem respectsText_flat : RespectsText Parser Parser fun p _ => Flat p where
  pure := flat_pure
  bind hp hf := hp.bind hf
  orElse hp hq := hp.orElse hq
  optional hp := hp.optional
  symbol _ := flat_terminal _
  keyword _ := flat_terminal _
  skip := flat_skip
  run := flat_run

theorem flat_tag : Flat tag :=
  respectsText_flat.tag

theorem consumes_tagOfKind (kind : TagKind) : Consumes (tagOfKind kind) := by
  have hvalue := composed_value.forward
  refine (consumes_symbol _).bind fun _ => ?_
  cases kind with
  | semantic => exact hvalue.bind fun _ => (forward_terminal _).optional.bind fun _ => forward_pure _
  | keyword => exact hvalue.bind fun _ => forward_pure _
  | comment => exact hvalue.bind fun _ => forward_pure _
  | regex =>
    exact (forward_run .pattern).bind fun _ => (forward_terminal _).bind fun _ => forward_pure _

theorem consumes_tag : Consumes tag :=
  (consumes_tagOfKind _).orElse <| (consumes_tagOfKind _).orElse <|
    (consumes_tagOfKind _).orElse (consumes_tagOfKind _)

/-! ## Operands and queries -/

theorem consumes_tagOrGroup (h : Forward inner) : Consumes (tagOrGroup inner) :=
  (consumes_tag.bind fun _ => forward_pure _).orElse <| (consumes_symbol .groupOpen).bind fun _ =>
    h.bind fun _ => (forward_terminal _).bind fun _ => forward_pure _

theorem consumes_operatorWord (op : Operator) : Consumes (operatorWord op) :=
  (consumes_keyword _).bind fun _ => forward_pure _

theorem consumes_operator : Consumes operator :=
  (forward_skip .space).bind_consumes fun _ => Consumes.bind
    ((consumes_operatorWord _).orElse ((consumes_operatorWord _).orElse (consumes_operatorWord _)))
    fun _ => (forward_skip .space).bind fun _ => forward_pure _

theorem flat_operator : Flat operator :=
  respectsText_flat.operator

theorem forward_query (levels : Nat) : Forward (query levels) :=
  (composed_query levels).forward

end TagQuery.Parser
