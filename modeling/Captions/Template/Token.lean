import Captions.Template.Slot

/-!
# Tokens of a template

A template holds argument slots, `{{name}}`, and icon slots, `{{icon:name}}`. A finished caption is
read for icon slots alone: an argument value may hold a stray `{{`, which must not hide an icon slot
after it. In a template an icon slot may lack a name; in a caption it may not.

Results:
* `sources_tokens`, `sources_iconTokens`: the tokens of a text, written one after the other, are
  the text.
-/

namespace Captions.Template

/-! ## Tokens -/

/-- A stretch of a template or a caption. -/
inductive Token where
  | literal (text : List Char)
  /-- A place for an argument. -/
  | argument (name : List Char)
  /-- A place for an icon. -/
  | icon (name : List Char)
deriving DecidableEq, Repr

/-- The opening mark of the slots of a template. -/
def opening : List Char := ['{', '{']

/-- What makes the slot of a template an icon slot. -/
def iconMark : List Char := ['i', 'c', 'o', 'n', ':']

/-- The opening mark of an icon slot. -/
def iconOpening : List Char := opening ++ iconMark

namespace Token

/-- The token as it stands in the text. -/
def source : Token → List Char
  | literal text => text
  | argument name => opening ++ name ++ closing
  | icon name => iconOpening ++ name ++ closing

/-- Whether the token is a place for something else. -/
def isSlot : Token → Bool
  | literal _ => false
  | _ => true

def argumentName? : Token → Option (List Char)
  | argument name => some name
  | _ => none

def iconName? : Token → Option (List Char)
  | icon name => some name
  | _ => none

/-- The slot of a template with `inner` between its braces. -/
def ofInner (inner : List Char) : Token :=
  if iconMark.isPrefixOf inner then icon (inner.drop iconMark.length) else argument inner

end Token

/-! ## Reading a text -/

/-- The token that a piece of a template is. -/
def Piece.toToken : Piece → Token
  | plain text => .literal text
  | slot inner => .ofInner inner

/-- The token that a piece of a finished caption is. -/
def Piece.toIconToken : Piece → Token
  | plain text => .literal text
  | slot name => .icon name

/-- The tokens of a template. -/
def tokens (cs : List Char) : List Token := (pieces opening cs).map Piece.toToken

/-- The tokens of a finished caption. -/
def iconTokens (cs : List Char) : List Token := (pieces iconOpening cs).map Piece.toIconToken

/-- The text that a row of tokens was read from. -/
def sources (ts : List Token) : List Char := ts.flatMap Token.source

/-! ## Nothing is lost -/

/-- A piece as it stands in a text whose slots have the given opening mark. -/
def Piece.source (opening : List Char) : Piece → List Char
  | plain text => text
  | slot name => opening ++ name ++ closing

theorem flatMap_source_consPlain (opening : List Char) (c : Char) (ps : List Piece) :
    (consPlain c ps).flatMap (Piece.source opening) = c :: ps.flatMap (Piece.source opening) := by
  unfold consPlain
  split <;> simp [Piece.source]

theorem flatMap_source_pieces (opening cs : List Char) :
    (pieces opening cs).flatMap (Piece.source opening) = cs := by
  fun_induction pieces opening cs with
  | case1 cs name rest h ih => simp [Piece.source, ih, slot?_eq_append h]
  | case2 => rfl
  | case3 c rest _ ih => rw [flatMap_source_consPlain, ih]

theorem Token.source_ofInner (inner : List Char) :
    (Token.ofInner inner).source = opening ++ inner ++ closing := by
  unfold Token.ofInner
  split
  · next h =>
    obtain ⟨name, rfl⟩ := List.isPrefixOf_iff_prefix.mp h
    simp [Token.source, iconOpening]
  · rfl

theorem Piece.source_toToken (p : Piece) : p.toToken.source = p.source opening := by
  cases p with
  | plain text => rfl
  | slot inner => exact Token.source_ofInner inner

theorem Piece.source_toIconToken (p : Piece) : p.toIconToken.source = p.source iconOpening := by
  cases p <;> rfl

theorem sources_tokens (cs : List Char) : sources (tokens cs) = cs := by
  simp only [sources, tokens, List.flatMap_map, Piece.source_toToken]
  exact flatMap_source_pieces opening cs

theorem source_infix_of_mem_tokens {cs : List Char} {t : Token} (h : t ∈ tokens cs) :
    t.source <:+: cs := by
  obtain ⟨as, bs, heq⟩ := List.append_of_mem h
  refine ⟨sources as, sources bs, ?_⟩
  rw [← sources_tokens cs, heq]
  simp [sources]

theorem sources_iconTokens (cs : List Char) : sources (iconTokens cs) = cs := by
  simp only [sources, iconTokens, List.flatMap_map, Piece.source_toIconToken]
  exact flatMap_source_pieces iconOpening cs

end Captions.Template
