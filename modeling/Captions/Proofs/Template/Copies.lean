import Captions.Proofs.Template.Reading
import Captions.Template.Bind

/-!
# What filling copies

The tokens of a template at their places in the filled text. Literals and icon slots are copied as
they stand, between texts of the arguments' making.

Results:
* `mem_copies_iff`: which copies there are, and what stands in front of each.
* `no_slot_in_literal`: whatever text follows it, no slot begins inside of a literal.
* `isInner_of_mem_tokens`: the shape of the slots of a template.
-/

namespace Captions.Template

open Text

/-! ## Copies -/

/-- A token of a template with the filled text in front of it. -/
structure Copied where
  before : List Char
  token : Token
deriving DecidableEq, Repr

namespace Copied

/-- Where the token stands in the filled text, if it is copied as it stands. -/
def placed (s : Copied) : Placed := ⟨byteSize s.before, s.token⟩

end Copied

/-- The tokens of a row with the filled text in front of each, which is `before` for the first. -/
def copiesFrom (values : List (List Char × List Char)) (before : List Char) :
    List Token → List Copied
  | [] => []
  | t :: ts => ⟨before, t⟩ :: copiesFrom values (before ++ t.fill values) ts

/-- The tokens of a template where filling puts them. -/
def copies (cs : List Char) (args : List (List Char)) : List Copied :=
  copiesFrom ((argumentNames (tokens cs)).zip args) [] (tokens cs)

theorem mem_copiesFrom_iff {values : List (List Char × List Char)} {before : List Char}
    {ts : List Token} {s : Copied} :
    s ∈ copiesFrom values before ts ↔
      ∃ as t bs, ts = as ++ t :: bs ∧ s = ⟨before ++ as.flatMap (Token.fill values), t⟩ := by
  induction ts generalizing before with
  | nil => simp [copiesFrom]
  | cons t ts ih =>
    rw [copiesFrom, List.mem_cons, ih]
    constructor
    · rintro (rfl | ⟨as, u, bs, rfl, rfl⟩)
      · exact ⟨[], t, ts, rfl, by simp⟩
      · exact ⟨t :: as, u, bs, rfl, by simp⟩
    · rintro ⟨_ | ⟨a, as⟩, u, bs, heq, rfl⟩
      · obtain ⟨rfl, rfl⟩ := List.cons.inj heq
        exact .inl (by simp)
      · obtain ⟨rfl, rfl⟩ := List.cons.inj heq
        exact .inr ⟨as, u, bs, rfl, by simp⟩

/-- The text of a copied token comes before all that is copied after it. -/
theorem pairwise_copiesFrom (values : List (List Char × List Char)) (before : List Char)
    (ts : List Token) :
    (copiesFrom values before ts).Pairwise fun s s' =>
      s.before ++ s.token.fill values <+: s'.before := by
  induction ts generalizing before with
  | nil => exact .nil
  | cons t ts ih =>
    refine .cons ?_ (ih _)
    intro s hs
    obtain ⟨as, u, bs, -, rfl⟩ := mem_copiesFrom_iff.mp hs
    exact List.prefix_append _ _

theorem map_token_copiesFrom (values : List (List Char × List Char)) (before : List Char)
    (ts : List Token) : (copiesFrom values before ts).map Copied.token = ts := by
  induction ts generalizing before with
  | nil => rfl
  | cons t ts ih => rw [copiesFrom, List.map_cons, ih]

section Template

variable {cs : List Char} {args : List (List Char)}

theorem mem_copies_iff {s : Copied} :
    s ∈ copies cs args ↔ ∃ as bs, tokens cs = as ++ s.token :: bs ∧
      s.before = as.flatMap (Token.fill ((argumentNames (tokens cs)).zip args)) := by
  rw [copies, mem_copiesFrom_iff]
  constructor
  · rintro ⟨as, t, bs, heq, rfl⟩
    exact ⟨as, bs, heq, rfl⟩
  · rintro ⟨as, bs, heq, hbefore⟩
    exact ⟨as, s.token, bs, heq, by rw [List.nil_append, ← hbefore]⟩

/-- The filled text, parted at a token. -/
theorem fill_eq_append {as bs : List Token} {t : Token} (h : tokens cs = as ++ t :: bs)
    (args : List (List Char)) :
    let values := (argumentNames (tokens cs)).zip args
    fill cs args = as.flatMap (Token.fill values) ++
      (t.fill values ++ bs.flatMap (Token.fill values)) := by
  intro values
  have hfill : fill cs args = (tokens cs).flatMap (Token.fill values) := rfl
  rw [hfill, h, List.flatMap_append, List.flatMap_cons]

end Template

/-- An argument slot is filled with an argument or stays as written. -/
theorem fill_argument_mem_or (names args : List (List Char)) (name : List Char) :
    (Token.argument name).fill (names.zip args) ∈ args ∨
      (Token.argument name).fill (names.zip args) = (Token.argument name).source := by
  cases h : (names.zip args).lookup name with
  | none =>
    refine .inr ?_
    rw [Token.fill, h, Option.getD_none]
  | some value =>
    obtain ⟨l, r, heq, -⟩ := List.lookup_eq_some_iff.mp h
    have hmem : (name, value) ∈ names.zip args := by simp [heq]
    refine .inl ?_
    rw [Token.fill, h, Option.getD_some]
    exact (List.of_mem_zip hmem).2

/-! ## Literals and slots of a template -/

/-- What holds of the empty row, and of every rear part of a row if of the next shorter one, holds
of the row. -/
theorem rear_induction {α : Type} {xs : List α} {motive : List α → Prop} (nil : motive [])
    (cons : ∀ as x bs, xs = as ++ x :: bs → motive bs → motive (x :: bs)) : motive xs := by
  suffices hrear : ∀ bs as, xs = as ++ bs → motive bs from hrear xs [] rfl
  intro bs
  induction bs with
  | nil => exact fun _ _ => nil
  | cons x bs ih => exact fun as h => cons as x bs h (ih (as ++ [x]) (by simp [h]))

/-- A template is cut anew from each of its tokens on. -/
theorem cuts_of_tokens_eq {cs : List Char} {as bs : List Token} {t : Token}
    (h : tokens cs = as ++ t :: bs) :
    ∃ q qs, t = Piece.toToken q ∧ bs = qs.map Piece.toToken ∧
      Cuts opening (t.source ++ sources bs) (q :: qs) := by
  obtain ⟨ps, qs', hps, rfl, hqs⟩ := List.map_eq_append_iff.mp h
  obtain ⟨q, qs, rfl, rfl, rfl⟩ := List.map_eq_cons_iff.mp hqs
  have hcuts := cuts_pieces opening cs
  rw [hps] at hcuts
  obtain ⟨rest, hrest, hcut⟩ := hcuts.append_right
  have hsources : cs = sources (ps.map Piece.toToken) ++
      ((Piece.toToken q).source ++ sources (qs.map Piece.toToken)) := by
    rw [← sources_tokens cs, h]
    simp [sources]
  refine ⟨q, qs, rfl, rfl, ?_⟩
  rw [makesTokens_toToken.sources_map, hrest] at hsources
  rw [← List.append_cancel_left hsources]
  exact hcut

theorem isInner_of_mem_tokens {cs inner : List Char} {t : Token} (ht : t ∈ tokens cs)
    (hinner : TemplateSlot inner t) : IsInner inner := by
  obtain ⟨as, bs, h⟩ := List.append_of_mem ht
  obtain ⟨q, qs, rfl, -, hcut⟩ := cuts_of_tokens_eq h
  have heq := (templateSlot_iff inner _).mp hinner
  cases q with
  | plain text =>
    have := makesTokens_toToken.isSlot_slot inner
    rw [← heq] at this
    simp [Piece.toToken, Token.isSlot] at this
  | slot inner' =>
    have hsources := congrArg Token.source heq
    rw [makesTokens_toToken.source_slot, makesTokens_toToken.source_slot,
      List.append_cancel_left_eq, List.append_cancel_right_eq] at hsources
    rw [← hsources]
    exact hcut.isInner

/-- A literal of a template has no slot within it, and a slot or nothing behind it. -/
theorem literal_of_tokens {cs l : List Char} {as bs : List Token}
    (h : tokens cs = as ++ .literal l :: bs) :
    (∀ v, v ≠ [] → v <:+ l → slot? opening (v ++ sources bs) = none) ∧
      (bs = [] ∨ ∃ inner rest, sources bs = opening ++ (inner ++ (closing ++ rest)) ∧
        IsInner inner) := by
  obtain ⟨q, qs, hq, rfl, hcut⟩ := cuts_of_tokens_eq h
  cases q with
  | slot inner =>
    have := makesTokens_toToken.isSlot_slot inner
    simp [← hq, Token.isSlot] at this
  | plain text =>
    obtain rfl : l = text := by simpa [Piece.toToken] using hq
    obtain ⟨rest, hrest, hno, hbehind⟩ := hcut.of_plain
    obtain rfl := List.append_cancel_left hrest
    exact ⟨hno, hbehind.imp_left (by rintro rfl; rfl)⟩

theorem oneLine_opening : OneLine opening := any_isLineBreak_eq_false_iff.mp rfl

theorem oneLine_closing : OneLine closing := any_isLineBreak_eq_false_iff.mp rfl

/-- A start of a text with an opening mark begins with one as soon as another one is put behind
it. -/
theorem exists_append_opening {v m rest : List Char} (hne : v ≠ [])
    (h : v ++ m = opening ++ rest) : ∃ u, v ++ opening = opening ++ u ∧ u ≠ [] := by
  rcases v with _ | ⟨a, _ | ⟨b, w⟩⟩
  · exact absurd rfl hne
  · obtain ⟨rfl, -⟩ : a = '{' ∧ _ := by simpa [opening] using h
    exact ⟨['{'], rfl, by simp⟩
  · obtain ⟨rfl, rfl, -⟩ : a = '{' ∧ b = '{' ∧ _ := by simpa [opening] using h
    exact ⟨w ++ opening, rfl, by simp [opening]⟩

/-- **Whatever text follows it in place of the rest of the template, no slot begins inside of a
literal.** The slot behind the literal would close an opening mark that is in it or reaches out of
it, so that mark would have opened a slot of the template. -/
theorem no_slot_in_literal {cs l mark v rest : List Char} {as bs : List Token}
    (h : tokens cs = as ++ .literal l :: bs) (hmark : OneLine mark)
    (hne : v ≠ []) (hv : v <:+ l) (hrest : bs = [] → rest = []) :
    slot? (opening ++ mark) (v ++ rest) = none := by
  obtain ⟨hno, hbehind⟩ := literal_of_tokens h
  have hnone := hno v hne hv
  by_contra hsome
  obtain ⟨⟨inner, after⟩, hslot⟩ := Option.ne_none_iff_exists'.mp hsome
  obtain ⟨heq, hinner⟩ := slot?_eq_some_iff.mp hslot
  have hline : OneLine (mark ++ inner) := oneLine_append.mpr ⟨hmark, hinner.oneLine⟩
  have hne' : mark ++ inner ≠ [] := by simp [hinner.ne_nil]
  -- The slot does not end within the literal, or it would be one of the template.
  have hout : ∀ m, v ≠ opening ++ (mark ++ inner ++ (closing ++ m)) := by
    rintro m rfl
    refine slot?_ne_none hne' hline opening (m ++ sources bs) ?_
    simpa using hnone
  rcases hbehind with rfl | ⟨inner', after', hsources, hinner'⟩
  · exact hout after (by simpa [hrest rfl] using heq)
  · have heq' : v ++ rest = opening ++ (mark ++ inner ++ closing) ++ after := by simp [heq]
    rcases List.append_eq_append_iff.mp heq' with ⟨m, hm, -⟩ | ⟨m, rfl, -⟩
    · have hvline : OneLine v := by
        have : OneLine (v ++ m) := by
          rw [← hm, oneLine_append, oneLine_append]
          exact ⟨oneLine_opening, hline, oneLine_closing⟩
        exact (oneLine_append.mp this).1
      obtain ⟨u, hu, hune⟩ := exists_append_opening hne hm.symm
      have huline : OneLine u := by
        have : OneLine (opening ++ u) := hu ▸ oneLine_append.mpr ⟨hvline, oneLine_opening⟩
        exact (oneLine_append.mp this).2
      have hune' : u ++ inner' ≠ [] := by simp [hune]
      refine slot?_ne_none hune' (oneLine_append.mpr ⟨huline, hinner'.oneLine⟩) opening after' ?_
      rw [hsources, ← List.append_assoc, hu] at hnone
      simpa using hnone
    · exact hout m (by simp)

end Captions.Template
