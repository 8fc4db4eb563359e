import Captions.Proofs.Icon.Names
import Captions.Text.Cut

/-!
# Resolving loses nothing

A resolved caption can be read back. Each of its spans covers a glyph and nothing else, no two spans
overlap, and with the slots put back in place of the glyphs the text is the caption that was
resolved.

Results:
* `covers_of_mem_spansFrom`: a span covers its glyph.
* `pairwise_spansFrom`: the spans come one behind the other.
* `foldr_replaceRange_spansFrom`: putting the slots back gives the text that the fragments were.
* `restored_resolution`: for a resolved caption this is the caption.
* `resolve_lossless`: a caption can be told from what it is resolved to.
-/

namespace Captions

open Template (Token iconNames iconTokens)
open Text (byteSize extract_toByteArray_ofList isValid_byteSize size_toByteArray_ofList
  toByteArray_ofList_append)

/-! ## Bytes of a text -/

/-- The bytes with those of `text` in place of the ones from `start` to `stop`. -/
def replaceRange (start stop : Nat) (text : String) (bytes : ByteArray) : ByteArray :=
  bytes.extract 0 start ++ text.toByteArray ++ bytes.extract stop bytes.size

theorem replaceRange_ofList (as bs cs text : List Char) :
    replaceRange (byteSize as) (byteSize as + byteSize bs) (String.ofList text)
        (String.ofList (as ++ (bs ++ cs))).toByteArray =
      (String.ofList (as ++ (text ++ cs))).toByteArray := by
  have hfront := extract_toByteArray_ofList [] as (bs ++ cs)
  have hback := extract_toByteArray_ofList (as ++ bs) cs []
  simp only [List.nil_append, List.append_nil, List.append_assoc, Text.byteSize_nil,
    Text.byteSize_append, Nat.zero_add] at hfront hback
  have hsize : (String.ofList (as ++ (bs ++ cs))).toByteArray.size =
      byteSize as + byteSize bs + byteSize cs := by
    rw [size_toByteArray_ofList]
    simp [Nat.add_assoc]
  rw [replaceRange, hsize, hfront, hback, toByteArray_ofList_append, toByteArray_ofList_append,
    ByteArray.append_assoc]

/-! ## Spans of a row of fragments -/

namespace Icons

/-- The spans come one behind the other. -/
theorem pairwise_spansFrom (scale : Float32) (offset : Nat) (fs : List Fragment) :
    (spansFrom scale offset fs).Pairwise fun s s' => s.stop ≤ s'.start := by
  induction fs generalizing offset with
  | nil => exact .nil
  | cons f fs ih =>
    cases f with
    | text cs =>
      simp only [spansFrom]
      exact ih _
    | unknown name =>
      simp only [spansFrom]
      exact ih _
    | glyph name c =>
      rw [spansFrom]
      refine .cons (fun s hs => ?_) (ih _)
      obtain ⟨as, bs, -, hstart, -⟩ := exists_of_mem_spansFrom hs
      rw [hstart]
      exact Nat.le_add_right _ _

end Icons

/-- What the span covers in `text` is its glyph. -/
structure Span.Covers (s : Span) (text : String) : Prop where
  start_lt_stop : s.start < s.stop
  stop_le_size : s.stop ≤ text.utf8ByteSize
  isValid_start : (⟨s.start⟩ : String.Pos.Raw).IsValid text
  isValid_stop : (⟨s.stop⟩ : String.Pos.Raw).IsValid text
  extract_eq : text.toByteArray.extract s.start s.stop =
    (String.singleton s.glyph).toByteArray

/-- The resolved caption with a slot in place of each glyph. The last glyph is replaced first, so
that those in front of it stay where their spans say. -/
def Resolved.restored (r : Resolved) : ByteArray :=
  r.spans.foldr (fun s => replaceRange s.start s.stop
    (String.ofList (Token.icon s.name.toList).source)) r.text.toByteArray

/-- The caption can be told from `r`, and `r` shows of its icons just those that the table has. -/
structure Resolved.IsLossless (r : Resolved) (icons : Icons) (caption : String) : Prop where
  covers : ∀ s ∈ r.spans, s.Covers r.text
  glyph_eq : ∀ s ∈ r.spans, icons.table.get? s.name = some s.glyph
  scale_eq : ∀ s ∈ r.spans, s.scale = icons.scale
  /-- The spans come one behind the other. -/
  separate : r.spans.Pairwise fun s s' => s.stop ≤ s'.start
  restored_eq : r.restored = caption.toByteArray
  names_eq : r.spans.map (·.name) =
    ((iconNames (iconTokens caption.toList)).map String.ofList).filter fun name =>
      (icons.table.get? name).isSome
  unresolved_eq : r.unresolved =
    ((iconNames (iconTokens caption.toList)).map String.ofList).filter fun name =>
      (icons.table.get? name).isNone

namespace Icons

theorem covers_of_mem_spansFrom {scale : Float32} {fs : List Fragment} {s : Span}
    (h : s ∈ spansFrom scale 0 fs) : s.Covers (String.ofList (fs.flatMap Fragment.shown)) := by
  obtain ⟨as, bs, rfl, hstart, hstop, -⟩ := exists_of_mem_spansFrom h
  rw [Nat.zero_add] at hstart
  have hshown : (as ++ .glyph s.name s.glyph :: bs).flatMap Fragment.shown =
      as.flatMap Fragment.shown ++ ([s.glyph] ++ bs.flatMap Fragment.shown) := by
    simp [Fragment.shown]
  rw [hshown]
  generalize as.flatMap Fragment.shown = front at hstart
  generalize bs.flatMap Fragment.shown = back
  have hpos := s.glyph.utf8Size_pos
  have hstop' : s.stop = byteSize front + byteSize [s.glyph] := by simp [hstop, hstart]
  refine ⟨by omega, ?_, ?_, ?_, ?_⟩
  · rw [Text.utf8ByteSize_ofList, hstop']
    simp
  · rw [hstart]
    exact isValid_byteSize front _
  · have hvalid := isValid_byteSize (front ++ [s.glyph]) back
    rwa [Text.byteSize_append, List.append_assoc, ← hstop'] at hvalid
  · rw [hstart, hstop', extract_toByteArray_ofList, String.singleton_eq_ofList]

/-- The text that a fragment stands for in the caption. -/
def Fragment.source : Fragment → List Char
  | text cs => cs
  | glyph name _ => (Token.icon name.toList).source
  | unknown name => (Token.icon name.toList).source

theorem source_fragment (table : GlyphTable) (t : Token) :
    (fragment table t).source = t.source := by
  rcases fragment_cases table t with ⟨-, h⟩ | ⟨name, c, rfl, -, h⟩ | ⟨name, rfl, -, h⟩
  · rw [h, Fragment.source]
  · rw [h, Fragment.source, String.toList_ofList]
  · rw [h, Fragment.source, String.toList_ofList]

theorem flatMap_source_fragments (table : GlyphTable) (caption : List Char) :
    (fragments table caption).flatMap Fragment.source = caption := by
  rw [fragments, List.flatMap_map]
  simp only [source_fragment]
  exact Template.sources_iconTokens caption

/-- A glyph is the one that the table has for its name. -/
theorem get?_of_glyph_mem_fragments {table : GlyphTable} {caption : List Char} {name : String}
    {c : Char} (h : .glyph name c ∈ fragments table caption) : table.get? name = some c := by
  obtain ⟨t, -, heq⟩ := List.mem_map.mp h
  rcases fragment_cases table t with ⟨-, ht⟩ | ⟨name', c', rfl, hget, ht⟩ | ⟨name', rfl, -, ht⟩
  · simp [ht] at heq
  · rw [ht, Fragment.glyph.injEq] at heq
    obtain ⟨rfl, rfl⟩ := heq
    exact hget
  · simp [ht] at heq

/-- Putting the slots back behind some text gives the text that the fragments stand for. -/
theorem foldr_replaceRange_spansFrom (scale : Float32) (front : List Char) (fs : List Fragment) :
    (spansFrom scale (byteSize front) fs).foldr
        (fun s => replaceRange s.start s.stop (String.ofList (Token.icon s.name.toList).source))
        (String.ofList (front ++ fs.flatMap Fragment.shown)).toByteArray =
      (String.ofList (front ++ fs.flatMap Fragment.source)).toByteArray := by
  induction fs generalizing front with
  | nil => rfl
  | cons f fs ih =>
    have hbehind := ih (front ++ f.shown)
    rw [Text.byteSize_append, List.append_assoc, List.append_assoc] at hbehind
    rw [List.flatMap_cons, List.flatMap_cons]
    cases f with
    | text cs =>
      simp only [spansFrom]
      exact hbehind
    | unknown name =>
      simp only [spansFrom]
      exact hbehind
    | glyph name c =>
      have hsize : c.utf8Size = byteSize [c] := by simp
      rw [spansFrom, List.foldr_cons, hsize]
      exact (congrArg _ hbehind).trans (replaceRange_ofList front [c] _ _)

theorem restored_resolution {icons : Icons} (henabled : icons.enabled = true) (caption : String) :
    (icons.resolution caption).restored = caption.toByteArray := by
  have hrestored := foldr_replaceRange_spansFrom icons.scale []
    (fragments icons.table caption.toList)
  rw [flatMap_source_fragments, List.nil_append, List.nil_append, String.ofList_toList] at hrestored
  rw [resolution, if_pos henabled]
  exact hrestored

end Icons

/-- **Resolving loses nothing.** The spans of a resolved caption cover their glyphs, one behind the
other, and the glyphs are those that the table has for the names; with a slot in place of each glyph
the text is the caption. The names shown and the names reported are the icons of the caption that
the table has and those that it lacks. -/
theorem Icons.resolve_lossless {icons : Icons} (henabled : icons.enabled = true)
    (caption : String) : (icons.resolve caption).value.IsLossless icons caption := by
  rw [value_resolve]
  refine ⟨?_, ?_, ?_, ?_, restored_resolution henabled caption,
    names_spans_resolution henabled caption, unresolved_resolution henabled caption⟩
  all_goals rw [resolution, if_pos henabled]
  · exact fun s => covers_of_mem_spansFrom
  · intro s hs
    obtain ⟨as, bs, heq, -⟩ := exists_of_mem_spansFrom hs
    have hmem : .glyph s.name s.glyph ∈ fragments icons.table caption.toList := by simp [heq]
    exact get?_of_glyph_mem_fragments hmem
  · intro s hs
    obtain ⟨as, bs, -, -, -, hscale⟩ := exists_of_mem_spansFrom hs
    exact hscale
  · exact pairwise_spansFrom _ _ _

/-- Characters of two bytes among glyphs of four, and a slot whose icon is unknown. -/
theorem Icons.resolve_lossless_mixed :
    let icons := Icons.ofTable .materialDesign
    let caption := "é{{icon:undo}}ä{{icon:x}}{{icon:redo}}"
    icons.enabled = true ∧ (icons.resolve caption).value.IsLossless icons caption ∧
      (icons.resolve caption).value.spans.map (fun s => (s.start, s.stop, s.name)) =
        [(2, 6, "undo"), (18, 22, "redo")] ∧
      (icons.resolve caption).value.unresolved = ["x"] :=
  ⟨rfl, Icons.resolve_lossless rfl _, by decide +kernel, by decide +kernel⟩

end Captions
