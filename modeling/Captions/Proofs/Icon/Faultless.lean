import Captions.Proofs.Icon.Lines
import Captions.Proofs.Template.Positional
import Captions.Proofs.Template.Scanned

/-!
# Reading, filling and resolving without a fault

Whatever a text is, a scan of it cuts out stretches of the text only, moves on with every step, and
ends with the tokens of the text. What is made from the tokens found is then the filled template and
the resolved caption. So no text, whatever its characters, makes any of them fail.

Results:
* `foldl_give`: arguments that are given out one by one go to the slots by position.
* `bindByScan_eq`, `resolveByScan_eq`: filling and resolving through scans.
* `scan_faultless`: no text makes a scan fail, and it finds the tokens of the text.
-/

namespace Captions

open Template Text

namespace Template

/-! ## Scans of a text -/

/-- A token as a scan finds it. -/
def Excerpt.ofToken (t : Token) : Excerpt := ⟨t.source, t⟩

/-- A scan of the text never fails and never stays where it is, and it ends with the tokens `ts`. -/
structure Grammar.ScansSoundly (g : Grammar) (text : String) (ts : List Token) : Prop where
  /-- Wherever the scan gets to, all that the next step cuts out lies in the text. -/
  step_eq_ok : ∀ s, Scan.Reaches g text .start s → ∃ next, s.step g text = .ok next
  /-- So does what the scan has passed without finding a slot. -/
  liesIn : ∀ s, Scan.Reaches g text .start s → (Stretch.mk s.literalStart s.pos).LiesIn text
  /-- A closing mark can be searched for from every place between two characters. -/
  close?_eq_ok : ∀ place, (⟨place⟩ : String.Pos.Raw).IsValid text →
    ∃ stop, Scan.close? text place = .ok stop
  pos_lt : ∀ s s', Scan.Reaches g text .start s → s.step g text = .ok (some s') →
    s.pos < s'.pos ∧ s'.pos ≤ text.utf8ByteSize
  ends : ∃ s, Scan.Reaches g text .start s ∧ s.step g text = .ok none ∧
    s.finish text = .ok (ts.map Excerpt.ofToken)
  scan_eq : g.scan text = .ok (ts.map Excerpt.ofToken)

theorem Scan.At.liesIn {g : Grammar} {text : String} {s : Scan} {done : List Piece}
    {lit rest : List Char} (h : s.At g text done lit rest) :
    (Stretch.mk s.literalStart s.pos).LiesIn text :=
  Stretch.liesIn_iff.mpr ⟨_, lit, rest, h.text_eq, h.literalStart_eq.symm, h.pos_eq.symm⟩

theorem Grammar.scansSoundly {g : Grammar} {text : String} {ts : List Token}
    (hts : (pieces g.opening text.toList).map g.excerpt = ts.map Excerpt.ofToken) :
    g.ScansSoundly text ts := by
  have hstart := Scan.at_start g text
  obtain ⟨s, hreach, hnone, hfinish⟩ := hstart.exists_end
  rw [hts] at hfinish
  refine ⟨?_, ?_, ?_, fun s s' _ hstep => Scan.pos_lt_of_step hstep, ⟨s, hreach, hnone, hfinish⟩, ?_⟩
  · intro s hs
    obtain ⟨_, _, _, hat⟩ := Scan.exists_at_of_reaches hstart hs
    rcases hat.step_cases with ⟨hnone, -⟩ | ⟨s', _, _, _, hsome, -⟩
    · exact ⟨none, hnone⟩
    · exact ⟨some s', hsome⟩
  · intro s hs
    obtain ⟨_, _, _, hat⟩ := Scan.exists_at_of_reaches hstart hs
    exact hat.liesIn
  · intro place hplace
    obtain ⟨before, cs, htext, rfl⟩ := isValid_iff_exists_append.mp hplace
    exact ⟨_, Scan.close?_eq htext⟩
  · rw [Grammar.scan, Scan.run_of_reaches hreach hnone, hfinish]

theorem scansSoundly_template (text : String) :
    Grammar.template.ScansSoundly text (tokens text.toList) := by
  refine Grammar.scansSoundly ?_
  rw [tokens, List.map_map]
  refine List.map_congr_left fun p _ => ?_
  cases p with
  | plain text => rfl
  | slot inner => exact congrArg (Excerpt.mk · _) (Token.source_ofInner inner).symm

theorem scansSoundly_caption (text : String) :
    Grammar.caption.ScansSoundly text (iconTokens text.toList) := by
  refine Grammar.scansSoundly ?_
  rw [iconTokens, List.map_map]
  refine List.map_congr_left fun p _ => ?_
  cases p with
  | plain text => rfl
  | slot name => rfl

/-! ## Filling -/

/-- What is given out to argument slots so far. -/
structure Given where
  /-- The values by the sources of the slots; of two for one source the first one counts. -/
  values : List (List Char × List Char)
  /-- The number of the next argument. -/
  next : ℕ

/-- Gives the next argument out, if the token is an argument slot and an argument is left. -/
def Given.give (args : List (List Char)) (given : Given) (e : Excerpt) : Given :=
  match e.token with
  | .argument _ =>
    if h : given.next < args.length then
      ⟨given.values ++ [(e.source, args[given.next])], given.next + 1⟩
    else given
  | _ => given

/-- What stands in place of a token when the sources on the left of `values` have the values on the
right. -/
def Excerpt.fill (values : List (List Char × List Char)) (e : Excerpt) : List Char :=
  match e.token with
  | .argument _ => (values.lookup e.source).getD e.source
  | _ => e.source

/-- The template, read by a scan, with its argument slots filled; surplus arguments are reported. -/
def bindByScan (template : String) (args : List String) : Except Stretch (Traced String) := do
  let found ← Grammar.template.scan template
  let given := found.foldl (Given.give (args.map String.toList)) ⟨[], 0⟩
  return do
    if given.next < args.length then Traced.report (.surplusArguments args.length given.next)
    return String.ofList (found.flatMap (Excerpt.fill given.values))

theorem zip_append_singleton {α β : Type} {as : List α} {bs : List β} (h : as.length < bs.length)
    (a : α) : (as ++ [a]).zip bs = as.zip bs ++ [(a, bs[as.length])] := by
  induction as generalizing bs with
  | nil =>
    cases bs with
    | nil => simp at h
    | cons b bs => simp
  | cons x as ih =>
    cases bs with
    | nil => simp at h
    | cons b bs => simp [ih (Nat.lt_of_succ_lt_succ h)]

theorem zip_append_of_length_le {α β : Type} {as : List α} {bs : List β}
    (h : bs.length ≤ as.length) (more : List α) : (as ++ more).zip bs = as.zip bs := by
  induction as generalizing bs with
  | nil => simp [List.length_eq_zero_iff.mp (Nat.le_zero.mp h)]
  | cons x as ih =>
    cases bs with
    | nil => simp
    | cons b bs => simp [ih (Nat.le_of_succ_le_succ h)]

/-- What is given out when the slots `slots` have been served by position. -/
def Given.byPosition (args slots : List (List Char)) : Given :=
  ⟨slots.zip args, min slots.length args.length⟩

theorem Given.give_byPosition (args slots : List (List Char)) (name : List Char) :
    (Given.byPosition args slots).give args (.ofToken (.argument name)) =
      .byPosition args (slots ++ [(Token.argument name).source]) := by
  by_cases h : slots.length < args.length
  · have hnext : min slots.length args.length = slots.length := Nat.min_eq_left h.le
    have hnext' : min (slots.length + 1) args.length = slots.length + 1 := Nat.min_eq_left h
    simp only [byPosition, List.length_append, List.length_singleton, hnext, hnext']
    simp only [give, Excerpt.ofToken, dif_pos h, zip_append_singleton h]
  · have hle : args.length ≤ slots.length := Nat.le_of_not_lt h
    have hnext : min slots.length args.length = args.length := Nat.min_eq_right hle
    have hnext' : min (slots.length + 1) args.length = args.length :=
      Nat.min_eq_right (Nat.le_succ_of_le hle)
    simp [give, byPosition, Excerpt.ofToken, hnext, hnext', zip_append_of_length_le hle]

/-- Arguments that are given out one by one go to the slots by position. -/
theorem foldl_give (args slots : List (List Char)) (ts : List Token) :
    (ts.map Excerpt.ofToken).foldl (Given.give args) (.byPosition args slots) =
      .byPosition args (slots ++ argumentSources ts) := by
  induction ts generalizing slots with
  | nil => simp [argumentSources]
  | cons t ts ih =>
    cases t with
    | literal text => exact ih slots
    | icon name => exact ih slots
    | argument name =>
      rw [List.map_cons, List.foldl_cons, Given.give_byPosition, ih, List.append_assoc]
      rfl

theorem fill_ofToken {ts : List Token} {t : Token} (ht : t ∈ ts) (args : List (List Char)) :
    (Excerpt.ofToken t).fill ((argumentSources ts).zip args) =
      t.byPosition (argumentSources ts) args := by
  cases t with
  | literal text => rfl
  | icon name => rfl
  | argument name =>
    have hmem : (Token.argument name).source ∈ argumentSources ts :=
      List.mem_map.mpr ⟨_, List.mem_filter.mpr ⟨ht, rfl⟩, rfl⟩
    show (((argumentSources ts).zip args).lookup (Token.argument name).source).getD _ = _
    rw [lookup_zip hmem]
    rfl

/-- Filling through a scan never fails and is filling. -/
theorem bindByScan_eq (template : String) (args : List String) :
    bindByScan template args = .ok (bind template args) := by
  have hgiven := foldl_give (args.map String.toList) [] (tokens template.toList)
  have hstart : Given.byPosition (args.map String.toList) [] = ⟨[], 0⟩ := by
    simp [Given.byPosition]
  have hfill : ((tokens template.toList).map Excerpt.ofToken).flatMap (Excerpt.fill
      ((argumentSources (tokens template.toList)).zip (args.map String.toList))) =
        fill template.toList (args.map String.toList) := by
    rw [fill_eq_byPosition, List.flatMap_map]
    exact List.flatMap_congr fun t ht => fill_ofToken ht _
  rw [hstart, List.nil_append] at hgiven
  rw [bindByScan, (scansSoundly_template template).scan_eq, ok_bind, hgiven, bind]
  simp only [Given.byPosition, hfill, length_argumentSources, List.length_map]
  by_cases h : (argumentNames (tokens template.toList)).length < args.length
  · rw [Nat.min_eq_left h.le]
    rfl
  · rw [Nat.min_eq_right (Nat.le_of_not_lt h), if_neg (Nat.lt_irrefl _), if_neg h]
    rfl

end Template

/-! ## Resolving -/

/-- The caption, read by a scan, with its icon slots resolved; every unknown icon is reported. With
icons switched off the caption is not read. -/
def Icons.resolveByScan (icons : Icons) (caption : String) : Except Stretch (Traced Resolved) := do
  if icons.enabled then
    let found ← Grammar.caption.scan caption
    return found.foldlM (fun r e => icons.put r e.token) (.plain "")
  else return pure (.plain caption)

/-- Resolving through a scan never fails and is resolving. -/
theorem Icons.resolveByScan_eq (icons : Icons) (caption : String) :
    icons.resolveByScan caption = .ok (icons.resolve caption) := by
  cases henabled : icons.enabled with
  | true =>
    rw [resolveByScan, if_pos henabled, (scansSoundly_caption caption).scan_eq, ok_bind,
      resolve, if_pos henabled, List.foldlM_map]
    rfl
  | false =>
    rw [resolveByScan, resolve, if_neg (by simp [henabled]), if_neg (by simp [henabled])]
    rfl

/-! ## No faults -/

/-- **No text makes a scan fail.** For every text, read as a template or as a caption, all that a
scan cuts out lies in the text and divides no character; every step moves on, and not beyond the
text; and the scan ends with the tokens of the text. Filling and resolving, which are made from what
a scan finds, never fail either. -/
theorem scan_faultless (text : String) :
    Grammar.template.ScansSoundly text (tokens text.toList) ∧
      Grammar.caption.ScansSoundly text (iconTokens text.toList) ∧
      (∀ args, bindByScan text args = .ok (bind text args)) ∧
      ∀ icons : Icons, icons.resolveByScan text = .ok (icons.resolve text) :=
  ⟨scansSoundly_template text, scansSoundly_caption text, bindByScan_eq text,
    fun icons => icons.resolveByScan_eq text⟩

/-- Between the braces stand characters of one to four bytes, and the last mark opens nothing. -/
example :
    let text := "é{{→𝄞}}\x7b\x7b"
    Grammar.template.scan text =
        .ok ([.literal ['é'], .argument ['→', '𝄞'], .literal opening].map Excerpt.ofToken) ∧
      cut text 3 6 = .error ⟨3, 6⟩ := by
  decide +kernel

end Captions
