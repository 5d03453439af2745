import DepositTrail.Journal
import DepositTrail.Proofs.Numerals

set_option autoImplicit false

/-! # Lines of the journal

What is printed of an entry is its level and its wording (`Entry.line`). The lines that tell of
something that is counted are known by them: by their level, and by the words with which they
begin and end (`Entry.Kind.Shows`). An explorer may put any words into the middle of a line, but
it cannot make a line look like one of another kind: which lines look like a kind is decided by
the entry alone (`Entry.shows_iff`).
-/

namespace DepositTrail

namespace Entry

/-- What is printed of an entry. -/
def line (e : Entry) : Level × Text := (e.level, e.text.toList)

theorem line_snd (e : Entry) : e.line.2 = e.text.toList := rfl

/-! ## Kinds of lines -/

/-- What a line tells of, as far as it is counted. -/
inductive Kind
  | undecodable
  | ceiling
  | refused
  | malformed
  | held
  | closing
deriving DecidableEq

/-- Whether a line looks like one of a kind. Refusals and ceilings begin alike. What the explorer
has said about a refusal stands before the last bracket of the line. -/
def Kind.Shows : Kind → Level × Text → Prop
  | .undecodable, l => l.1 = .error ∧ "Undecodable deposit log".toList <+: l.2
  | .ceiling, l =>
      l.1 = .warn ∧ "Blocks ".toList <+: l.2 ∧ "provider ceiling reached".toList <:+ l.2
  | .refused, l =>
      l.1 = .warn ∧ "Blocks ".toList <+: l.2 ∧ " refused: ".toList <:+: l.2 ∧ ")".toList <:+ l.2
  | .malformed, l => l.1 = .warn ∧ "Malformed log result".toList <+: l.2
  | .held, l => l.1 = .warn ∧ "Checkpoint held at block ".toList <+: l.2
  | .closing, l => l.1 = .warn ∧ l.2.head?.any Text.isDigit = true

instance decidableShows : (k : Kind) → (l : Level × Text) → Decidable (k.Shows l)
  | .undecodable, _ | .malformed, _ | .held, _ | .closing, _ => inferInstanceAs (Decidable (_ ∧ _))
  | .ceiling, _ => inferInstanceAs (Decidable (_ ∧ _ ∧ _))
  | .refused, _ => inferInstanceAs (Decidable (_ ∧ _ ∧ _ ∧ _))

/-- The kind of the line of an entry. -/
def kind? : Entry → Option Kind
  | .undecodable _ | .undecodableIn _ _ => some .undecodable
  | .ceiling _ _ => some .ceiling
  | .refused _ _ _ _ => some .refused
  | .malformed _ => some .malformed
  | .held _ => some .held
  | .someUndecodable _ | .someCeilings _ | .someAbandoned _ => some .closing
  | _ => none

/-! ## Telling the lines apart -/

/-- The kind of a line, by its level and by its first and last characters. -/
def Kind.ofLine? (l : Level × Text) : Option Kind :=
  if l.1 = .error then some .undecodable
  else if l.1 = .info then none
  else if l.2.head? = some 'B' then
    some (if l.2.getLast? = some ')' then .refused else .ceiling)
  else if l.2.head? = some 'M' then some .malformed
  else if l.2.head? = some 'C' then some .held
  else if l.2.head?.any Text.isDigit then some .closing
  else none

theorem head?_of_isPrefix {c : Char} {s t : Text} (hs : s.head? = some c) (h : s <+: t) :
    t.head? = some c := by
  obtain ⟨rest, rfl⟩ := h
  rw [List.head?_append, hs, Option.some_or]

theorem getLast?_of_isSuffix {c : Char} {s t : Text} (hs : s.getLast? = some c) (h : s <:+ t) :
    t.getLast? = some c := by
  obtain ⟨front, rfl⟩ := h
  rw [List.getLast?_append, hs, Option.some_or]

/-- **A line that looks like one of a kind** does not look like one of another. -/
theorem Kind.ofLine?_of_shows {k : Kind} {l : Level × Text} (h : k.Shows l) :
    ofLine? l = some k := by
  obtain ⟨level, t⟩ := l
  cases k with
  | undecodable =>
      obtain ⟨rfl, -⟩ := h
      rfl
  | ceiling =>
      obtain ⟨rfl, hfirst, hlast⟩ := h
      have hhead : t.head? = some 'B' := head?_of_isPrefix (by decide) hfirst
      have hend : t.getLast? = some 'd' := getLast?_of_isSuffix (by decide) hlast
      simp [ofLine?, hhead, hend]
  | refused =>
      obtain ⟨rfl, hfirst, -, hlast⟩ := h
      have hhead : t.head? = some 'B' := head?_of_isPrefix (by decide) hfirst
      have hend : t.getLast? = some ')' := getLast?_of_isSuffix (by decide) hlast
      simp [ofLine?, hhead, hend]
  | malformed =>
      obtain ⟨rfl, hfirst⟩ := h
      have hhead : t.head? = some 'M' := head?_of_isPrefix (by decide) hfirst
      simp [ofLine?, hhead]
  | held =>
      obtain ⟨rfl, hfirst⟩ := h
      have hhead : t.head? = some 'C' := head?_of_isPrefix (by decide) hfirst
      simp [ofLine?, hhead]
  | closing =>
      obtain ⟨rfl, hdigit⟩ := h
      obtain ⟨c, hhead, hc⟩ := (Option.any_eq_true _ _).mp hdigit
      have hB := Text.ne_of_isDigit hc (d := 'B') rfl
      have hM := Text.ne_of_isDigit hc (d := 'M') rfl
      have hC := Text.ne_of_isDigit hc (d := 'C') rfl
      simp [ofLine?, hhead, hc, hB, hM, hC]

theorem isDigit_head?_closing (n : Nat) (words : String) :
    (toString n ++ words).toList.head?.any Text.isDigit = true := by
  obtain ⟨c, digits, hdigits, hc⟩ := Text.decimal_eq_cons n
  have hcons : (toString n).toList = c :: digits := by
    rw [← hdigits]
    simp [Text.decimal]
  rw [String.toList_append, hcons, List.cons_append, List.head?_cons, Option.any_some, hc]

/-- An entry has a line of its kind. -/
theorem shows_of_kind? {e : Entry} {k : Kind} (h : e.kind? = some k) : k.Shows e.line := by
  cases e with
  | undecodable problem =>
      cases h
      refine And.intro rfl ⟨(": " ++ problem.message).toList, ?_⟩
      rw [line_snd]
      show _ = ("Undecodable deposit log: " ++ problem.message).toList
      simp
  | undecodableIn block problem =>
      cases h
      refine And.intro rfl ⟨(" in block " ++ toString block ++ ": " ++ problem.message).toList, ?_⟩
      rw [line_snd]
      show _ = ("Undecodable deposit log in block " ++ toString block ++ ": "
        ++ problem.message).toList
      simp
  | malformed value =>
      cases h
      refine And.intro rfl ⟨(", skipping rest of window: " ++ String.ofList value.write).toList, ?_⟩
      rw [line_snd]
      show _ = ("Malformed log result, skipping rest of window: "
        ++ String.ofList value.write).toList
      simp
  | held w =>
      cases h
      refine And.intro rfl ⟨(toString w.first ++ ": window " ++ blocks w
        ++ " was not fully scanned").toList, ?_⟩
      rw [line_snd]
      show _ = ("Checkpoint held at block " ++ toString w.first ++ ": window " ++ blocks w
        ++ " was not fully scanned").toList
      simp
  | refused w page message result =>
      cases h
      -- what the explorer has said stands in the part behind, but before the bracket
      let front : Text := (blocks w ++ " page " ++ toString page).toList
      let back : Text := message ++ " (".toList ++ result.write
      have hline : (Entry.refused w page message result).line.2
          = "Blocks ".toList ++ front ++ " refused: ".toList ++ (back ++ ")".toList) := by
        rw [line_snd]
        show ("Blocks " ++ blocks w ++ " page " ++ toString page ++ " refused: "
          ++ String.ofList message ++ " (" ++ String.ofList result.write ++ ")").toList = _
        simp [front, back]
      refine And.intro rfl ?_
      rw [hline]
      refine ⟨?_, ⟨_, _, rfl⟩, ?_⟩
      · rw [List.append_assoc, List.append_assoc]
        exact List.prefix_append _ _
      · exact (List.suffix_append _ _).trans (List.suffix_append _ _)
  | ceiling w maxResults =>
      cases h
      have hline : (Entry.ceiling w maxResults).line.2
          = "Blocks ".toList ++ ((blocks w ++ ": " ++ toString maxResults
            ++ " results returned, ").toList ++ "provider ceiling reached".toList) := by
        rw [line_snd]
        show ("Blocks " ++ blocks w ++ ": " ++ toString maxResults
          ++ " results returned, provider ceiling reached").toList = _
        simp
      refine And.intro rfl ?_
      rw [hline]
      exact ⟨List.prefix_append _ _, (List.suffix_append _ _).trans (List.suffix_append _ _)⟩
  | someUndecodable count | someCeilings count | someAbandoned count =>
      cases h
      refine And.intro rfl ?_
      rw [line_snd]
      exact isDigit_head?_closing count _
  | starting | loaded | checkpointing | done | resuming | scanning | retrying | complete =>
      cases h

/-- An entry of no kind is for information, or it tells of a failure that was tried again. -/
theorem ofLine?_of_kind?_eq_none {e : Entry} (h : e.kind? = none) : Kind.ofLine? e.line = none := by
  cases e with
  | retrying attempt attempts r failure wait =>
      have hhead : (Entry.retrying attempt attempts r failure wait).line.2.head? = some 'E' := by
        rw [line_snd]
        show ("Explorer request failed (attempt " ++ toString attempt ++ "/"
          ++ toString attempts ++ ", blocks " ++ toString r.fromBlock ++ "-"
          ++ toString r.toBlock ++ " page " ++ toString r.page ++ "): " ++ failure.message
          ++ ". Retrying in " ++ wait.toText).toList.head? = some 'E'
        simp
      have hlevel : (Entry.retrying attempt attempts r failure wait).line.1 = .warn := rfl
      have hdigit : Text.isDigit 'E' = false := rfl
      simp [Kind.ofLine?, hhead, hlevel, hdigit]
  | starting | loaded | checkpointing | done | resuming | scanning | complete => rfl
  | undecodable | undecodableIn | malformed | refused | ceiling | held | someUndecodable
    | someCeilings | someAbandoned => cases h

/-- **A line looks like one of a kind** exactly if it is the line of an entry of this kind. -/
theorem shows_iff {e : Entry} {k : Kind} : k.Shows e.line ↔ e.kind? = some k := by
  constructor
  · intro h
    -- the entry has a kind and its line looks like it, so this is the kind that is shown
    have hline := Kind.ofLine?_of_shows h
    cases hk : e.kind? with
    | none =>
        rw [ofLine?_of_kind?_eq_none hk] at hline
        cases hline
    | some k' =>
        rw [Kind.ofLine?_of_shows (shows_of_kind? hk)] at hline
        exact hline
  · exact shows_of_kind?

/-! ## Entries of one kind -/

/-- The entries of one kind. -/
def ofKind (k : Kind) (es : List Entry) : List Entry := es.filter fun e => e.kind? = some k

/-- The lines of a journal that look like one of a kind. -/
def linesOf (k : Kind) (es : List Entry) : List (Level × Text) :=
  (es.map line).filter fun l => k.Shows l

/-- The lines of a kind are those of its entries. -/
theorem linesOf_eq (k : Kind) (es : List Entry) : linesOf k es = (ofKind k es).map line := by
  rw [linesOf, ofKind, List.filter_map]
  congr 1
  exact List.filter_congr fun e _ => decide_eq_decide.mpr shows_iff

@[simp] theorem ofKind_append (k : Kind) (es es' : List Entry) :
    ofKind k (es ++ es') = ofKind k es ++ ofKind k es' :=
  List.filter_append es es'

theorem linesOf_append (k : Kind) (es es' : List Entry) :
    linesOf k (es ++ es') = linesOf k es ++ linesOf k es' := by
  rw [linesOf, linesOf, linesOf, List.map_append, List.filter_append]

/-- Of entries of one kind, or of no kind, all are of this kind and none is of another. -/
theorem ofKind_of_forall {o : Option Kind} {es : List Entry} (h : ∀ e ∈ es, e.kind? = o)
    (k : Kind) : ofKind k es = if o = some k then es else [] := by
  unfold ofKind
  split
  · rename_i ho
    exact List.filter_eq_self.mpr fun e he => decide_eq_true ((h e he).trans ho)
  · rename_i ho
    refine List.filter_eq_nil_iff.mpr fun e he => ?_
    rw [h e he, decide_eq_true_eq]
    exact ho

end Entry

end DepositTrail
