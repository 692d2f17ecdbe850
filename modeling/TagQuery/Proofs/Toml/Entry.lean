import TagQuery.Proofs.Text.Reading
import TagQuery.Toml.Document

/-!
# Documents of one entry

* `Toml.readPair?_bare`: a bare key with its value is read up to what follows the value.
* `Toml.parse?_entry`: a document that is a line with a bare key and a value defines this key only.
-/

namespace TagQuery.Toml

variable {c : Char} {key written rest : List Char} {item : Item}

/-! ## Bare keys -/

theorem isBlank_of_isBareKeyChar (h : isBareKeyChar c) : isBlank c = false := by
  refine Bool.eq_false_iff.mpr fun hblank => ?_
  rcases Bool.or_eq_true_iff.mp hblank with hblank | hblank <;>
  · rw [beq_iff_eq.mp hblank] at h
    cases h

theorem skipBlanks_of_head (h : ∀ c ∈ rest.head?, isBlank c = false) : skipBlanks rest = rest := by
  cases rest with
  | nil => rfl
  | cons c rest => simp [skipBlanks, h c rfl]

theorem head_of_bare {p : Char → Prop} (hne : key ≠ []) (hkey : ∀ c ∈ key, p c) :
    ∀ c ∈ (key ++ rest).head?, p c := by
  intro c hc
  cases key with
  | nil => exact absurd rfl hne
  | cons d key =>
    cases hc
    exact hkey _ List.mem_cons_self

theorem readKeyPart?_bare (hne : key ≠ []) (hkey : ∀ c ∈ key, isBareKeyChar c)
    (hrest : ∀ c ∈ rest.head?, ¬isBareKeyChar c) :
    readKeyPart? (key ++ rest) = some (String.ofList key, rest) := by
  have hhead : ∀ c ∈ (key ++ rest).head?, isBareKeyChar c := head_of_bare hne hkey
  rw [readKeyPart?]
  · simp [Text.takeWhile_run hkey hrest, Text.dropWhile_run hkey hrest, hne]
  · intro _ hquote
    cases hhead '"' (by rw [hquote]; rfl)
  · intro _ hquote
    cases hhead '\x27' (by rw [hquote]; rfl)

theorem readKey?_bare (hne : key ≠ []) (hkey : ∀ c ∈ key, isBareKeyChar c) :
    readKey? (key ++ ' ' :: '=' :: rest) = some ([String.ofList key], '=' :: rest) := by
  have hblank : skipBlanks (key ++ ' ' :: '=' :: rest) = key ++ ' ' :: '=' :: rest :=
    skipBlanks_of_head
      (head_of_bare hne fun c hc => isBlank_of_isBareKeyChar (hkey c hc))
  have hends : ∀ c ∈ (' ' :: '=' :: rest).head?, ¬isBareKeyChar c := fun c hc => by
    cases hc
    decide
  have hafter : skipBlanks (' ' :: '=' :: rest) = '=' :: rest := rfl
  have hseparator : '=' ≠ '.' := by decide
  have hpart : readKey?.part (key ++ ' ' :: '=' :: rest) = some (String.ofList key, '=' :: rest) := by
    simp [readKey?.part, hblank, readKeyPart?_bare hne hkey hends, hafter]
  simp [readKey?, Text.readSeparated?_last hpart hseparator, nestingLimit]

/-- A bare key with its value is read up to what follows the value. -/
theorem readPair?_bare {value : List Char → Option (Item × List Char)} (hne : key ≠ [])
    (hkey : ∀ c ∈ key, isBareKeyChar c) (hblank : ∀ c ∈ written.head?, isBlank c = false)
    (hvalue : value written = some (item, rest)) :
    readPair? value (key ++ ' ' :: '=' :: ' ' :: written) =
      some (([String.ofList key], item), rest) := by
  have hspace : skipBlanks (' ' :: written) = written := skipBlanks_of_head hblank
  simp [readPair?, readKey?_bare hne hkey, hspace, hvalue]

/-! ## Documents -/

/-- The value of an entry ends where its line does. -/
theorem readEntry?_bare (hne : key ≠ []) (hkey : ∀ c ∈ key, isBareKeyChar c)
    (hblank : ∀ c ∈ written.head?, isBlank c = false)
    (hvalue : readValue? (nestingLimit - 1) written = some (item, ['\n'])) :
    Document.readEntry? {} (key ++ ' ' :: '=' :: ' ' :: written) =
      some ({ entries := [(String.ofList key, item)] }, []) := by
  have hend : lineEnd? ['\n'] = some [] := rfl
  have hpair := readPair?_bare hne hkey hblank hvalue
  simp [Document.readEntry?, hpair, hend, Entries.modify?, Entries.assign?, Entries.set]

/-- No line but that of an entry begins with a character of a bare key. -/
theorem readLine?_of_bare {doc : Document} {text : List Char}
    (hhead : ∀ c ∈ text.head?, isBareKeyChar c) : doc.readLine? text = doc.readEntry? text := by
  have hmark : ∀ {mark tail}, isBareKeyChar mark = false → text ≠ mark :: tail := by
    rintro mark tail hmark rfl
    rw [hhead mark rfl] at hmark
    cases hmark
  rw [Document.readLine?]
  · exact fun _ => hmark (by decide)
  · exact fun _ => hmark (by decide)
  · exact fun _ => hmark (by decide)
  · exact fun _ => hmark (by decide)
  · exact fun _ => hmark (by decide)

/-- **A document of one entry.** A line with a bare key and its value defines the key as the value,
and nothing else. -/
theorem parse?_entry (hne : key ≠ []) (hkey : ∀ c ∈ key, isBareKeyChar c)
    (hblank : ∀ c ∈ written.head?, isBlank c = false)
    (hvalue : readValue? (nestingLimit - 1) written = some (item, ['\n'])) :
    parse? (String.ofList (key ++ ' ' :: '=' :: ' ' :: written)) =
      some [(String.ofList key, item)] := by
  have hentry := readEntry?_bare hne hkey hblank hvalue
  have hhead : ∀ c ∈ (key ++ ' ' :: '=' :: ' ' :: written).head?, isBareKeyChar c :=
    head_of_bare hne hkey
  have hnil : key ++ ' ' :: '=' :: ' ' :: written ≠ [] := by simp
  generalize key ++ ' ' :: '=' :: ' ' :: written = text at hentry hhead hnil
  have hskip : skipBlanks text = text :=
    skipBlanks_of_head fun c hc => isBlank_of_isBareKeyChar (hhead c hc)
  have hlength : 0 < text.length := List.length_pos_iff.mpr hnil
  have hend : Document.read? { entries := [(String.ofList key, item)] } [] =
      some { entries := [(String.ofList key, item)] } := by
    rw [Document.read?]
    rfl
  have hread : Document.read? {} text = some { entries := [(String.ofList key, item)] } := by
    rw [Document.read?, hskip, readLine?_of_bare hhead, hentry]
    simp [hnil, hlength, hend]
  rw [parse?, String.toList_ofList]
  split
  next => cases hhead '\uFEFF' rfl
  next => rw [hread, Option.map_some]

end TagQuery.Toml
