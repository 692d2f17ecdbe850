import TagQuery.Config
import TagQuery.Proofs.Explanation.Wording

/-!
# What the log says

* `Grammar.queryEntry_injective`, `Grammar.rejectionEntry_injective`: what an entry is about can be
  read off it, so no query makes an entry that is about another one.
* `Grammar.entries_of_ok`, `Grammar.entries_of_error`: all that is logged of a query.
* `Config.isPlain_of_mem_ofEnvironment`: warnings about the environment hold no control characters.
* `Grammar.parseLogged_exact`: the log of a query is these entries, and none of them spans two lines.
-/

namespace TagQuery

open Text (IsPlain isPlain_append)

/-! ## Numbers in messages -/

/-- A number ends where no digit follows. -/
theorem Text.toString_cancel {first second : Nat} {rest rest' : List Char}
    (hrest : ∀ c ∈ rest.head?, ¬c.isDigit) (hrest' : ∀ c ∈ rest'.head?, ¬c.isDigit)
    (h : (toString first).toList ++ rest = (toString second).toList ++ rest') :
    first = second ∧ rest = rest' := by
  have hdigits : ∀ n : Nat, ∀ c ∈ Nat.toDigits 10 n, c.isDigit :=
    fun n _ => Nat.isDigit_of_mem_toDigits (by decide) (by decide)
  simp only [Nat.toString_eq_ofList_toDigits, String.toList_ofList] at h
  have htake := congrArg (List.takeWhile Char.isDigit) h
  have hdrop := congrArg (List.dropWhile Char.isDigit) h
  rw [takeWhile_run (hdigits first) hrest, takeWhile_run (hdigits second) hrest'] at htake
  rw [dropWhile_run (hdigits first) hrest, dropWhile_run (hdigits second) hrest'] at hdrop
  have hnumber := congrArg (Nat.ofDigitChars 10 · 0) htake
  simp only [Nat.ofDigitChars_ten_toDigits] at hnumber
  exact ⟨hnumber, hdrop⟩

namespace Grammar

variable {g : Grammar} {text other : String} {e : Expr} {rejection : Rejection}
  {error error' : ParseError}

/-! ## Entries -/

theorem queryEntry_injective (h : queryEntry text = queryEntry other) : text = other := by
  have hlist := congrArg (fun entry => entry.message.toList ++ []) h
  simp only [queryEntry, String.toList_append, List.append_assoc] at hlist
  exact (Text.visible_cancel (List.append_cancel_left hlist)).1

/-- The query ends with its quotation and the column with its digits. -/
theorem rejectionEntry_injective (h : rejectionEntry text error = rejectionEntry other error') :
    text = other ∧ error = error' := by
  have hlist := congrArg (·.message.toList) h
  simp only [rejectionEntry, String.toList_append, List.append_assoc] at hlist
  obtain ⟨rfl, hafter⟩ := Text.visible_cancel (List.append_cancel_left hlist)
  have hcolon : ∀ message : List Char, ∀ c ∈ (": ".toList ++ message).head?, ¬c.isDigit := by
    intro message c hc
    cases hc
    decide
  obtain ⟨hlocation, hmessage⟩ :=
    Text.toString_cancel (hcolon _) (hcolon _) (List.append_cancel_left hafter)
  have hmessage := String.toList_inj.mp (List.append_cancel_left hmessage)
  cases error
  cases error'
  cases hlocation
  cases hmessage
  exact ⟨rfl, rfl⟩

theorem isPlain_queryEntry (text : String) : IsPlain (queryEntry text).message := by
  have hfront : IsPlain "parsing query " := by decide
  exact isPlain_append.mpr ⟨hfront, Text.isPlain_visible text⟩

theorem isPlain_rejectionEntry (text : String) (rejection : Rejection) :
    IsPlain (rejectionEntry text rejection.toParseError).message := by
  have hquery : IsPlain "query " := by decide
  have hrejected : IsPlain " rejected at column " := by decide
  have hcolon : IsPlain ": " := by decide
  have hlocation := Text.isPlain_toString rejection.column
  have hmessage := rejection.isPlain_message
  simp only [rejectionEntry, isPlain_append]
  exact ⟨⟨⟨⟨⟨hquery, Text.isPlain_visible text⟩, hrejected⟩, hlocation⟩, hcolon⟩, hmessage⟩

/-! ## All that is logged -/

theorem value_parseLogged (g : Grammar) (text : String) :
    (g.parseLogged text).value = g.parse text := by
  unfold parseLogged
  cases g.parse text <;> rfl

theorem entries_of_ok (h : g.parse text = .ok e) :
    (g.parseLogged text).entries = [queryEntry text] := by
  unfold parseLogged
  rw [h]
  rfl

theorem entries_of_error (h : g.parse text = .error rejection) :
    (g.parseLogged text).entries =
      [queryEntry text, rejectionEntry text rejection.toParseError] := by
  unfold parseLogged
  rw [h]
  rfl

end Grammar

/-! ## The environment -/

theorem Config.isPlain_warning (raw : String) (fault : Text.Decimal.Fault) :
    IsPlain (Config.warning raw fault) := by
  have hignoring : IsPlain "ignoring " := by decide
  have hname : IsPlain Config.variableName := by decide
  have hequals : IsPlain "=" := by decide
  have hcolon : IsPlain ": " := by decide
  have hfault : IsPlain fault.text := by cases fault <;> decide
  have husing : IsPlain "; using max_depth=" := by decide
  have hlimit := Text.isPlain_toString ({} : Config).maxDepth
  unfold Config.warning
  simp only [isPlain_append]
  exact ⟨⟨⟨⟨⟨⟨⟨hignoring, hname⟩, hequals⟩, Text.isPlain_visible raw⟩, hcolon⟩, hfault⟩, husing⟩,
    hlimit⟩

theorem Config.isPlain_of_mem_ofEnvironment {bytes : Option ByteArray} {entry : Log.Entry}
    (h : entry ∈ (Config.ofEnvironment bytes).entries) : IsPlain entry.message := by
  unfold Config.ofEnvironment at h
  split at h
  next raw _ =>
    unfold Config.ofSetting at h
    split at h
    next => cases h
    next fault _ =>
      obtain rfl := List.mem_singleton.mp h
      exact Config.isPlain_warning raw fault
  next => cases h

/-- **The log is exact and no query can forge it.** Reading a query with a log comes to the same as
without. The log is one entry that quotes the query, and if the query is rejected another one with
the column and the message of the rejection, and nothing else. Different queries give different
entries, and what a query was rejected for can be told from the entry. Whatever the query, the limit
and the environment, no message shows a control character, so each stays on its line. -/
theorem Grammar.parseLogged_exact (g : Grammar) (text : String) :
    (g.parseLogged text).value = g.parse text ∧
    (∀ e, g.parse text = .ok e → (g.parseLogged text).entries =
      [⟨.trace, "parsing query " ++ Text.visible text⟩]) ∧
    (∀ r, g.parse text = .error r → (g.parseLogged text).entries =
      [⟨.trace, "parsing query " ++ Text.visible text⟩,
        ⟨.debug, "query " ++ Text.visible text ++ " rejected at column " ++
          toString r.toParseError.location ++ ": " ++ r.toParseError.message⟩]) ∧
    (∀ (other : Grammar) (query : String),
      (g.parseLogged text).entries.head? = (other.parseLogged query).entries.head? →
        text = query) ∧
    (∀ (other : Grammar) (query : String) (r r' : Rejection),
      g.parse text = .error r → other.parse query = .error r' →
        (g.parseLogged text).entries.getLast? = (other.parseLogged query).entries.getLast? →
          text = query ∧ r.toParseError = r'.toParseError) ∧
    (∀ r, g.parse text = .error r → IsPlain r.toParseError.message) ∧
    (∀ entry ∈ (g.parseLogged text).entries, IsPlain entry.message) ∧
    ∀ bytes, ∀ entry ∈ (Config.ofEnvironment bytes).entries, IsPlain entry.message := by
  have hhead : ∀ (g : Grammar) (text : String),
      (g.parseLogged text).entries.head? = some (queryEntry text) := by
    intro g text
    cases hparse : g.parse text with
    | ok e => rw [entries_of_ok hparse]; rfl
    | error r => rw [entries_of_error hparse]; rfl
  refine ⟨value_parseLogged g text, fun e => entries_of_ok, fun r => entries_of_error, ?_, ?_,
    fun r _ => r.isPlain_message, ?_, fun bytes entry => Config.isPlain_of_mem_ofEnvironment⟩
  · intro other query h
    rw [hhead, hhead] at h
    exact queryEntry_injective (Option.some.inj h)
  · intro other query r r' hr hr' h
    rw [entries_of_error hr, entries_of_error hr'] at h
    exact rejectionEntry_injective (Option.some.inj h)
  · intro entry hentry
    cases hparse : g.parse text with
    | ok e =>
      rw [entries_of_ok hparse] at hentry
      obtain rfl := List.mem_singleton.mp hentry
      exact isPlain_queryEntry text
    | error r =>
      rw [entries_of_error hparse] at hentry
      rcases List.mem_cons.mp hentry with rfl | hentry
      · exact isPlain_queryEntry text
      · obtain rfl := List.mem_singleton.mp hentry
        exact isPlain_rejectionEntry text r

end TagQuery
