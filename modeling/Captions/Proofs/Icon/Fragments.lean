import Captions.Icon.Resolve
import Captions.Text.Size

/-!
# Captions as rows of fragments

A caption is resolved from left to right. What it has come to so far can be told without going
through it again: each token comes to a fragment of its own, and the resolved caption is what its
fragments show, one behind the other. So are the reports: what is reported on the way are the icons
that the resolved caption names as not found.

Results:
* `fragment_cases`: what a token comes to.
* `exists_of_mem_spansFrom`: a span tells what is in front of its glyph.
* `ofFragments_append`: a row of fragments is resolved part by part.
* `put_eq`, `foldlM_put`: one more token behind a caption, and a row of them.
* `resolve_eq`: what a caption is resolved to, and what is reported.
-/

namespace Captions

open Template (Token)

/-! ## Resolved captions one behind the other -/

/-- The span with `offset` more bytes of text before it. -/
def Span.shift (offset : Nat) (s : Span) : Span :=
  { s with start := offset + s.start, stop := offset + s.stop }

theorem Span.shift_shift (m n : Nat) (s : Span) : (s.shift n).shift m = s.shift (m + n) := by
  simp [shift, Nat.add_assoc]

theorem Span.shift_zero : Span.shift 0 = id := by
  funext s
  simp [shift]

namespace Resolved

/-- The caption `r` with `r'` behind it. -/
protected def append (r r' : Resolved) : Resolved where
  text := r.text ++ r'.text
  spans := r.spans ++ r'.spans.map (Span.shift r.text.utf8ByteSize)
  unresolved := r.unresolved ++ r'.unresolved

instance : Append Resolved := ⟨Resolved.append⟩

theorem append_eq (r r' : Resolved) :
    r ++ r' =
      { text := r.text ++ r'.text
        spans := r.spans ++ r'.spans.map (Span.shift r.text.utf8ByteSize)
        unresolved := r.unresolved ++ r'.unresolved } :=
  rfl

protected theorem append_assoc (r r' r'' : Resolved) : r ++ r' ++ r'' = r ++ (r' ++ r'') := by
  have hshift : Span.shift (r.text ++ r'.text).utf8ByteSize =
      Span.shift r.text.utf8ByteSize ∘ Span.shift r'.text.utf8ByteSize := by
    funext s
    rw [Function.comp_apply, Span.shift_shift, String.utf8ByteSize_append]
  simp only [append_eq, String.append_assoc, List.append_assoc, List.map_append, List.map_map,
    hshift]

theorem plain_append (a b : String) : plain (a ++ b) = plain a ++ plain b := rfl

theorem plain_empty_append (r : Resolved) : plain "" ++ r = r := by
  simp [append_eq, plain, Span.shift_zero]

theorem append_plain_empty (r : Resolved) : r ++ plain "" = r := by
  simp [append_eq, plain]

/-- The reports of the icons that were not found. -/
def reports (r : Resolved) : List Effect := r.unresolved.map fun name => .event (.unknownIcon name)

theorem reports_append (r r' : Resolved) : (r ++ r').reports = r.reports ++ r'.reports :=
  List.map_append

end Resolved

namespace Icons

/-! ## Fragments -/

/-- What a token of a caption comes to. -/
inductive Fragment where
  /-- Text that stays as written. -/
  | text (text : List Char)
  /-- A glyph for an icon slot. -/
  | glyph (name : String) (glyph : Char)
  /-- A slot whose icon is not in the table. -/
  | unknown (name : String)
deriving DecidableEq

namespace Fragment

/-- What is shown. -/
def shown : Fragment → List Char
  | text cs => cs
  | glyph _ c => [c]
  | unknown name => (Token.icon name.toList).source

def unknownName? : Fragment → Option String
  | unknown name => some name
  | _ => none

end Fragment

/-- What a token comes to under `table`. -/
def fragment (table : GlyphTable) : Token → Fragment
  | .icon name =>
    match table.get? (String.ofList name) with
    | some c => .glyph (String.ofList name) c
    | none => .unknown (String.ofList name)
  | t => .text t.source

/-- A token comes to text, to the glyph of its icon or to a report of it. -/
theorem fragment_cases (table : GlyphTable) (t : Token) :
    (t.iconName? = none ∧ fragment table t = .text t.source) ∨
      (∃ name c, t = .icon name ∧ table.get? (String.ofList name) = some c ∧
        fragment table t = .glyph (String.ofList name) c) ∨
      ∃ name, t = .icon name ∧ table.get? (String.ofList name) = none ∧
        fragment table t = .unknown (String.ofList name) := by
  cases t with
  | literal text => exact .inl ⟨rfl, rfl⟩
  | argument name => exact .inl ⟨rfl, rfl⟩
  | icon name =>
    cases h : table.get? (String.ofList name) with
    | some c => exact .inr (.inl ⟨name, c, rfl, h, by rw [fragment, h]⟩)
    | none => exact .inr (.inr ⟨name, rfl, h, by rw [fragment, h]⟩)

/-- The fragments of a caption. -/
def fragments (table : GlyphTable) (caption : List Char) : List Fragment :=
  (Template.iconTokens caption).map (fragment table)

/-! ## Spans of a row of fragments -/

/-- The glyphs among `fs`, the first of which starts `offset` bytes into the text. -/
def spansFrom (scale : Float32) (offset : Nat) : List Fragment → List Span
  | [] => []
  | .glyph name c :: fs =>
    { start := offset, stop := offset + c.utf8Size, glyph := c, name, scale } ::
      spansFrom scale (offset + c.utf8Size) fs
  | f :: fs => spansFrom scale (offset + Text.byteSize f.shown) fs

theorem spansFrom_append (scale : Float32) (offset : Nat) (as bs : List Fragment) :
    spansFrom scale offset (as ++ bs) =
      spansFrom scale offset as ++
        spansFrom scale (offset + Text.byteSize (as.flatMap Fragment.shown)) bs := by
  induction as generalizing offset with
  | nil => simp [spansFrom]
  | cons f as ih => cases f <;> simp [spansFrom, ih, Fragment.shown, Nat.add_assoc]

/-- A span tells what stands in front of its glyph and behind it. -/
theorem exists_of_mem_spansFrom {scale : Float32} {offset : Nat} {fs : List Fragment} {s : Span}
    (h : s ∈ spansFrom scale offset fs) :
    ∃ as bs, fs = as ++ .glyph s.name s.glyph :: bs ∧
      s.start = offset + Text.byteSize (as.flatMap Fragment.shown) ∧
      s.stop = s.start + s.glyph.utf8Size ∧ s.scale = scale := by
  induction fs generalizing offset with
  | nil => simp [spansFrom] at h
  | cons f fs ih =>
    have hbehind : ∀ {size : Nat}, size = Text.byteSize f.shown →
        s ∈ spansFrom scale (offset + size) fs →
        ∃ as bs, f :: fs = as ++ .glyph s.name s.glyph :: bs ∧
          s.start = offset + Text.byteSize (as.flatMap Fragment.shown) ∧
          s.stop = s.start + s.glyph.utf8Size ∧ s.scale = scale := by
      rintro _ rfl h
      obtain ⟨as, bs, rfl, hstart, hstop, hscale⟩ := ih h
      refine ⟨f :: as, bs, rfl, ?_, hstop, hscale⟩
      rw [hstart, List.flatMap_cons, Text.byteSize_append, Nat.add_assoc]
    cases f with
    | text cs =>
      simp only [spansFrom] at h
      exact hbehind rfl h
    | unknown name =>
      simp only [spansFrom] at h
      exact hbehind rfl h
    | glyph name c =>
      rw [spansFrom] at h
      rcases List.mem_cons.mp h with rfl | h
      · exact ⟨[], fs, rfl, rfl, rfl, rfl⟩
      · exact hbehind (by simp [Fragment.shown]) h

theorem spansFrom_shift (scale : Float32) (offset base : Nat) (fs : List Fragment) :
    spansFrom scale (offset + base) fs = (spansFrom scale base fs).map (Span.shift offset) := by
  induction fs generalizing base with
  | nil => rfl
  | cons f fs ih =>
    cases f with
    | text cs => simp only [spansFrom, Nat.add_assoc, ih]
    | unknown name => simp only [spansFrom, Nat.add_assoc, ih]
    | glyph name c => simp only [spansFrom, Nat.add_assoc, ih, List.map_cons, Span.shift]

/-! ## Rows of fragments -/

/-- What a row of fragments is resolved to. -/
def ofFragments (scale : Float32) (fs : List Fragment) : Resolved where
  text := String.ofList (fs.flatMap Fragment.shown)
  spans := spansFrom scale 0 fs
  unresolved := fs.filterMap Fragment.unknownName?

/-- A row of fragments is resolved part by part. -/
theorem ofFragments_append (scale : Float32) (as bs : List Fragment) :
    ofFragments scale (as ++ bs) = ofFragments scale as ++ ofFragments scale bs := by
  have hspans : spansFrom scale 0 (as ++ bs) = spansFrom scale 0 as ++
      (spansFrom scale 0 bs).map (Span.shift (Text.byteSize (as.flatMap Fragment.shown))) := by
    rw [spansFrom_append, Nat.zero_add, ← spansFrom_shift, Nat.add_zero]
  simp only [Resolved.append_eq, ofFragments, hspans, List.flatMap_append, String.ofList_append,
    List.filterMap_append, Text.utf8ByteSize_ofList]

theorem ofFragments_text (scale : Float32) (cs : List Char) :
    ofFragments scale [.text cs] = .plain (String.ofList cs) := by
  simp [ofFragments, spansFrom, Fragment.shown, Fragment.unknownName?, Resolved.plain]

theorem ofFragments_glyph (scale : Float32) (name : String) (c : Char) :
    ofFragments scale [.glyph name c] =
      { text := String.singleton c
        spans := [{ start := 0, stop := c.utf8Size, glyph := c, name, scale }]
        unresolved := [] } := by
  rw [String.singleton_eq_ofList]
  simp [ofFragments, spansFrom, Fragment.shown, Fragment.unknownName?]

theorem ofFragments_unknown (scale : Float32) (name : List Char) :
    ofFragments scale [.unknown (String.ofList name)] =
      { text := String.ofList (Token.icon name).source
        spans := []
        unresolved := [String.ofList name] } := by
  simp [ofFragments, spansFrom, Fragment.shown, Fragment.unknownName?]

/-! ## Resolving -/

/-- One more token brings its fragment behind the caption, and a report if the fragment is of an
unknown icon. -/
theorem put_eq (icons : Icons) (r : Resolved) (t : Token) :
    icons.put r t =
      ⟨r ++ ofFragments icons.scale [fragment icons.table t],
        (ofFragments icons.scale [fragment icons.table t]).reports⟩ := by
  rcases fragment_cases icons.table t with ⟨hname, h⟩ | ⟨name, c, rfl, hget, h⟩ | ⟨name, rfl, hget, h⟩
  · have hput : icons.put r t = pure { r with text := r.text ++ String.ofList t.source } := by
      cases t with
      | literal text => rfl
      | argument name => rfl
      | icon name => contradiction
    rw [hput, h, ofFragments_text, Resolved.append_eq]
    simp [Resolved.plain, Resolved.reports, pure]
  · rw [put, hget, h, ofFragments_glyph, Resolved.append_eq]
    simp [Resolved.reports, Span.shift, pure]
  · rw [put, hget, h, ofFragments_unknown, Resolved.append_eq]
    simp [Resolved.reports, Functor.map, Traced.report, Traced.effect]

theorem foldlM_put (icons : Icons) (r : Resolved) (ts : List Token) :
    ts.foldlM icons.put r =
      ⟨r ++ ofFragments icons.scale (ts.map (fragment icons.table)),
        (ofFragments icons.scale (ts.map (fragment icons.table))).reports⟩ := by
  induction ts generalizing r with
  | nil => exact congrArg (Traced.mk · []) (Resolved.append_plain_empty r).symm
  | cons t ts ih =>
    have hparts := ofFragments_append icons.scale [fragment icons.table t]
      (ts.map (fragment icons.table))
    rw [List.singleton_append] at hparts
    rw [List.foldlM_cons, put_eq, Traced.mk_bind, ih, List.map_cons, hparts,
      Resolved.reports_append, Resolved.append_assoc]

/-- What a caption is resolved to. -/
def resolution (icons : Icons) (caption : String) : Resolved :=
  if icons.enabled then ofFragments icons.scale (fragments icons.table caption.toList)
  else .plain caption

theorem resolution_disabled {icons : Icons} (h : icons.enabled = false) (caption : String) :
    icons.resolution caption = .plain caption := by
  simp [resolution, h]

/-- A caption is resolved to what its fragments show, and the icons reported are those that the
resolved caption names as not found. -/
theorem resolve_eq (icons : Icons) (caption : String) :
    icons.resolve caption = ⟨icons.resolution caption, (icons.resolution caption).reports⟩ := by
  cases henabled : icons.enabled with
  | true =>
    rw [resolve, resolution, if_pos henabled, if_pos henabled, foldlM_put,
      Resolved.plain_empty_append, fragments]
  | false =>
    rw [resolve, resolution_disabled henabled, if_neg (by simp [henabled])]
    rfl

@[simp]
theorem value_resolve (icons : Icons) (caption : String) :
    (icons.resolve caption).value = icons.resolution caption := by
  rw [resolve_eq]

@[simp]
theorem effects_resolve (icons : Icons) (caption : String) :
    (icons.resolve caption).effects = (icons.resolution caption).reports := by
  rw [resolve_eq]

end Icons

end Captions
