import Mathlib.Data.List.Basic
import VisualScript.Language.Operator
import VisualScript.Proofs.Language.Templates

/-!
# Reading operators back

Calls by operators are written around the texts of their operands. What comes out is not
always the text of one tree only: signs in front of an operand run together, and the text
does not tell which of two signs on both sides of an operand is applied first. These are
the only ways in which a text can be that of two trees.
-/

namespace VisualScript.Operator

/-- A name by which calls with so many operands are written as operators. -/
@[ext] structure Sign (count : Nat) where
  name : String
  accepted : ∀ operands : List String, operands.length = count →
    (render? name operands).isSome = true

/-- The text of a call. -/
def Sign.write {count : Nat} (sign : Sign count) (operands : List String)
    (h : operands.length = count) : String :=
  (render? sign.name operands).get (sign.accepted operands h)

/-- Whether a character belongs to words: letters, digits and the underscore, and whatever is
beyond ASCII. -/
def InWord (c : Char) : Bool := Template.isNameChar c || 0x80 ≤ c.toNat

/-- A text that no operator is written with. -/
@[ext] structure Word where
  text : String
  nonempty : text ≠ ""
  plain : text.toList.all InWord = true

/-- Calls by operators, one inside the other. -/
inductive Tree where
  | word (atom : Word)
  | unary (sign : Sign 1) (operand : Tree)
  | binary (sign : Sign 2) (left right : Tree)

namespace Tree

/-- The text of a tree: every call is written around the texts of its operands. -/
def render : Tree → String
  | .word atom => atom.text
  | .unary sign operand => sign.write [operand.render] rfl
  | .binary sign left right => sign.write [left.render, right.render] rfl

/-- Trees that come to the same but for the grouping of signs. -/
inductive Alike : Tree → Tree → Prop
  | refl (tree) : Alike tree tree
  | symm {tree other} (same : Alike tree other) : Alike other tree
  | trans {tree other third} (same : Alike tree other) (further : Alike other third) :
      Alike tree third
  | unary {operand other} (sign : Sign 1) (same : Alike operand other) :
      Alike (.unary sign operand) (.unary sign other)
  | binary {left right other third} (sign : Sign 2) (same : Alike left other)
      (further : Alike right third) : Alike (.binary sign left right) (.binary sign other third)
  /-- A sign in front of itself is written as the sign that is twice as long. -/
  | doubled {sign twice : Sign 1} (operand) (name : twice.name = sign.name ++ sign.name) :
      Alike (.unary sign (.unary sign operand)) (.unary twice operand)
  /-- Of a sign in front of an operand and one behind it either may be the inner one. -/
  | exchanged {before behind : Sign 1} (operand) (leads : before.name ∈ leading)
      (trails : behind.name ∉ leading) :
      Alike (.unary before (.unary behind operand)) (.unary behind (.unary before operand))

end Tree

/-! ## Signs -/

theorem Sign.write_eq {count : Nat} {sign : Sign count} {operands : List String}
    {h : operands.length = count} {text : String}
    (hrender : render? sign.name operands = some text) : sign.write operands h = text :=
  Option.get_of_eq_some _ hrender

theorem render?_leading {name : String} (h : name ∈ leading) (operand : String) :
    render? name [operand] = some (name ++ operand) :=
  if_pos h

theorem render?_trailing {name sign : String} (hleading : name ∉ leading)
    (h : trailing.lookup name = some sign) (operand : String) :
    render? name [operand] = some (operand ++ sign) := by
  rw [render?, if_neg hleading, h, Option.map_some]

/-- A name in front of its operand. -/
def Sign.ofLeading (name : String) (h : name ∈ leading) : Sign 1 where
  name := name
  accepted operands hlength := by
    obtain ⟨operand, rfl⟩ := List.length_eq_one_iff.mp hlength
    rw [render?_leading h, Option.isSome_some]

/-- A name that is written behind its operand. -/
def Sign.ofTrailing (name sign : String) (hleading : name ∉ leading)
    (h : trailing.lookup name = some sign) : Sign 1 where
  name := name
  accepted operands hlength := by
    obtain ⟨operand, rfl⟩ := List.length_eq_one_iff.mp hlength
    rw [render?_trailing hleading h, Option.isSome_some]

/-- The characters that are signs in front of an operand on their own. -/
inductive Mark where
  | exclamation
  | tilde
  | minus
  | plus

def Mark.char : Mark → Char
  | .exclamation => '!'
  | .tilde => '~'
  | .minus => '-'
  | .plus => '+'

/-- The characters that are signs when they are written twice. -/
inductive Twin where
  | minus
  | plus

def Twin.mark : Twin → Mark
  | .minus => .minus
  | .plus => .plus

/-- The sign that is one character twice. -/
def Twin.text (twin : Twin) : List Char := [twin.mark.char, twin.mark.char]

theorem Mark.char_injective : Function.Injective Mark.char := by
  intro mark other h
  cases mark <;> cases other <;> first | rfl | exact absurd h (by decide)

theorem Twin.mark_injective : Function.Injective Twin.mark := by
  intro twin other h
  cases twin <;> cases other <;> first | rfl | cases h

theorem Mark.name_mem (mark : Mark) : String.singleton mark.char ∈ leading := by
  cases mark <;> decide

theorem Twin.before_mem (twin : Twin) : String.ofList twin.text ∈ leading := by
  cases twin <;> decide

theorem Twin.behind_lookup (twin : Twin) :
    String.ofList (twin.mark.char :: twin.text) ∉ leading ∧
      trailing.lookup (String.ofList (twin.mark.char :: twin.text)) =
        some (String.ofList twin.text) := by
  cases twin <;> decide

/-- The sign in front of an operand that is one character. -/
def Mark.sign (mark : Mark) : Sign 1 := .ofLeading (String.singleton mark.char) mark.name_mem

/-- The sign in front of an operand that is one character twice. -/
def Twin.before (twin : Twin) : Sign 1 := .ofLeading (String.ofList twin.text) twin.before_mem

/-- The sign behind an operand that is one character twice. -/
def Twin.behind (twin : Twin) : Sign 1 :=
  .ofTrailing (String.ofList (twin.mark.char :: twin.text)) (String.ofList twin.text)
    twin.behind_lookup.1 twin.behind_lookup.2

theorem Twin.before_name (twin : Twin) :
    twin.before.name = twin.mark.sign.name ++ twin.mark.sign.name := by
  cases twin <;> decide

theorem mem_names_of_unary (sign : Sign 1) : sign.name ∈ leading ++ trailing.map Prod.fst := by
  have haccepted := sign.accepted [""] rfl
  unfold render? at haccepted
  dsimp only at haccepted
  split at haccepted
  next hleading => exact List.mem_append_left _ hleading
  next =>
    rw [Option.isSome_map, Option.isSome_iff_exists] at haccepted
    obtain ⟨written, hlookup⟩ := haccepted
    obtain ⟨front, rest, hentry, -⟩ := List.lookup_eq_some_iff.mp hlookup
    refine List.mem_append_right _ (List.mem_map.mpr ⟨(sign.name, written), ?_, rfl⟩)
    rw [hentry]
    exact List.mem_append_right _ (List.mem_cons_self ..)

/-- A sign is one character in front of its operand, or one character twice on either side. -/
theorem unary_cases (sign : Sign 1) :
    (∃ mark, sign = Mark.sign mark) ∨ (∃ twin, sign = Twin.before twin) ∨
      ∃ twin, sign = Twin.behind twin := by
  have hname := mem_names_of_unary sign
  simp only [leading, trailing, List.map_cons, List.map_nil, List.cons_append, List.nil_append,
    List.mem_cons, List.not_mem_nil, or_false] at hname
  rcases hname with hname | hname | hname | hname | hname | hname | hname | hname
  · exact .inl ⟨.exclamation, Sign.ext hname⟩
  · exact .inl ⟨.tilde, Sign.ext hname⟩
  · exact .inl ⟨.minus, Sign.ext hname⟩
  · exact .inl ⟨.plus, Sign.ext hname⟩
  · exact .inr (.inl ⟨.plus, Sign.ext hname⟩)
  · exact .inr (.inl ⟨.minus, Sign.ext hname⟩)
  · exact .inr (.inr ⟨.plus, Sign.ext hname⟩)
  · exact .inr (.inr ⟨.minus, Sign.ext hname⟩)

theorem mem_binary (sign : Sign 2) : sign.name ∈ binary := by
  have haccepted := sign.accepted ["", ""] rfl
  unfold render? at haccepted
  dsimp only at haccepted
  split at haccepted
  next hbinary => exact hbinary
  next => cases haccepted

namespace Tree

/-! ## What is written -/

/-- The characters of the text of a tree. -/
def text (tree : Tree) : List Char := tree.render.toList

theorem render_leading {sign : Sign 1} (h : sign.name ∈ leading) (operand : Tree) :
    (unary sign operand).render = sign.name ++ operand.render :=
  Sign.write_eq (render?_leading h _)

theorem render_trailing {sign : Sign 1} {written : String} (hleading : sign.name ∉ leading)
    (h : trailing.lookup sign.name = some written) (operand : Tree) :
    (unary sign operand).render = operand.render ++ written :=
  Sign.write_eq (render?_trailing hleading h _)

theorem render_binary (sign : Sign 2) (left right : Tree) :
    (binary sign left right).render =
      "(" ++ left.render ++ " " ++ sign.name ++ " " ++ right.render ++ ")" :=
  Sign.write_eq (if_pos (mem_binary sign))

theorem text_mark (mark : Mark) (operand : Tree) :
    (unary mark.sign operand).text = mark.char :: operand.text := by
  rw [text, render_leading mark.name_mem, String.toList_append]
  exact congrArg (· ++ operand.text) (String.toList_singleton mark.char)

theorem text_behind (twin : Twin) (operand : Tree) :
    (unary twin.behind operand).text = operand.text ++ twin.text := by
  rw [text, render_trailing twin.behind_lookup.1 twin.behind_lookup.2, String.toList_append,
    String.toList_ofList]
  rfl

theorem text_binary (sign : Sign 2) (left right : Tree) :
    (binary sign left right).text =
      '(' :: (left.text ++ ' ' :: (sign.name.toList ++ ' ' :: (right.text ++ [')']))) := by
  rw [text, render_binary]
  simp [text]

/-- Only plus and minus are names that another name is twice. -/
theorem leading_of_doubled {sign twice : Sign 1} (h : twice.name = sign.name ++ sign.name) :
    sign.name ∈ leading ∧ twice.name ∈ leading :=
  (by decide : ∀ name ∈ leading ++ trailing.map Prod.fst,
    ∀ double ∈ leading ++ trailing.map Prod.fst, double = name ++ name →
      name ∈ leading ∧ double ∈ leading)
    sign.name (mem_names_of_unary sign) twice.name (mem_names_of_unary twice) h

theorem exists_lookup_of_not_leading {sign : Sign 1} (h : sign.name ∉ leading) :
    ∃ written, trailing.lookup sign.name = some written := by
  rcases unary_cases sign with ⟨mark, rfl⟩ | ⟨twin, rfl⟩ | ⟨twin, rfl⟩
  · exact absurd mark.name_mem h
  · exact absurd twin.before_mem h
  · exact ⟨_, twin.behind_lookup.2⟩

/-- How signs are grouped is not told by the text. -/
theorem Alike.render_eq {tree other : Tree} (h : tree.Alike other) :
    tree.render = other.render := by
  induction h with
  | refl => rfl
  | symm _ ih => exact ih.symm
  | trans _ _ ih further => exact ih.trans further
  | unary sign _ ih => rw [render, render, ih]
  | binary sign _ _ ih further => rw [render, render, ih, further]
  | doubled operand name =>
      obtain ⟨hsign, htwice⟩ := leading_of_doubled name
      rw [render_leading hsign, render_leading hsign, render_leading htwice, name,
        String.append_assoc]
  | exchanged operand leads trails =>
      obtain ⟨written, hlookup⟩ := exists_lookup_of_not_leading trails
      rw [render_leading leads, render_trailing trails hlookup, render_trailing trails hlookup,
        render_leading leads, String.append_assoc]

/-- Signs on both sides of a tree: those in front of it, outermost first, around those behind
it, innermost first. -/
def wrap (lead : List Mark) (trail : List Twin) (tree : Tree) : Tree :=
  lead.foldr (fun mark => unary mark.sign)
    (trail.foldl (fun inner twin => unary twin.behind inner) tree)

theorem text_wrap (lead : List Mark) (trail : List Twin) (tree : Tree) :
    (wrap lead trail tree).text =
      lead.map Mark.char ++ (tree.text ++ trail.flatMap Twin.text) := by
  have htrail : (trail.foldl (fun inner twin => unary twin.behind inner) tree).text =
      tree.text ++ trail.flatMap Twin.text := by
    induction trail generalizing tree with
    | nil => rw [List.foldl_nil, List.flatMap_nil, List.append_nil]
    | cons twin rest ih =>
        rw [List.foldl_cons, ih, text_behind, List.flatMap_cons, List.append_assoc]
  induction lead with
  | nil => exact htrail
  | cons mark rest ih =>
      rw [List.map_cons, List.cons_append, ← ih]
      exact text_mark mark _

/-- A sign behind signs in front may as well be behind what they are in front of. -/
theorem alike_wrap_append (lead : List Mark) (trail : List Twin) (twin : Twin) (tree : Tree) :
    (unary twin.behind (wrap lead trail tree)).Alike (wrap lead (trail ++ [twin]) tree) := by
  induction lead with
  | nil =>
      rw [wrap, wrap, List.foldl_append]
      exact .refl _
  | cons mark rest ih =>
      have hexchanged : (unary mark.sign (unary twin.behind (wrap rest trail tree))).Alike
          (unary twin.behind (unary mark.sign (wrap rest trail tree))) :=
        .exchanged _ mark.name_mem twin.behind_lookup.1
      exact hexchanged.symm.trans (.unary mark.sign ih)

end Tree

/-! ## Phrases -/

/-- What a text tells of a tree: the signs on either side and what is between them. -/
inductive Phrase where
  | word (lead : List Mark) (atom : Word) (trail : List Twin)
  | binary (lead : List Mark) (sign : Sign 2) (left right : Phrase) (trail : List Twin)

namespace Phrase

/-- The tree of a phrase in which signs behind an operand are applied first. -/
def tree : Phrase → Tree
  | .word lead atom trail => .wrap lead trail (.word atom)
  | .binary lead sign left right trail => .wrap lead trail (.binary sign left.tree right.tree)

/-- Put a sign in front. -/
def precede (mark : Mark) : Phrase → Phrase
  | .word lead atom trail => .word (mark :: lead) atom trail
  | .binary lead sign left right trail => .binary (mark :: lead) sign left right trail

/-- Put a sign behind. -/
def follow (twin : Twin) : Phrase → Phrase
  | .word lead atom trail => .word lead atom (trail ++ [twin])
  | .binary lead sign left right trail => .binary lead sign left right (trail ++ [twin])

theorem tree_precede (mark : Mark) (phrase : Phrase) :
    (phrase.precede mark).tree = .unary mark.sign phrase.tree := by
  cases phrase with
  | word => rfl
  | binary => rfl

theorem alike_follow (twin : Twin) (phrase : Phrase) :
    (Tree.unary twin.behind phrase.tree).Alike (phrase.follow twin).tree := by
  cases phrase with
  | word lead atom trail => exact Tree.alike_wrap_append lead trail twin _
  | binary lead sign left right trail => exact Tree.alike_wrap_append lead trail twin _

/-- Every tree comes to the same as that of a phrase. -/
theorem exists_alike (tree : Tree) : ∃ phrase : Phrase, tree.Alike phrase.tree := by
  induction tree with
  | word atom => exact ⟨.word [] atom [], .refl _⟩
  | unary sign operand ih =>
      obtain ⟨phrase, hphrase⟩ := ih
      have hunder := hphrase.unary sign
      rcases unary_cases sign with ⟨mark, rfl⟩ | ⟨twin, rfl⟩ | ⟨twin, rfl⟩
      · exact ⟨phrase.precede mark, tree_precede mark phrase ▸ hunder⟩
      · refine ⟨(phrase.precede twin.mark).precede twin.mark, ?_⟩
        rw [tree_precede, tree_precede]
        exact hunder.trans (Tree.Alike.doubled _ twin.before_name).symm
      · exact ⟨phrase.follow twin, hunder.trans (alike_follow twin phrase)⟩
  | binary sign left right ihLeft ihRight =>
      obtain ⟨first, hfirst⟩ := ihLeft
      obtain ⟨second, hsecond⟩ := ihRight
      exact ⟨.binary [] sign first second [], .binary sign hfirst hsecond⟩

/-! ## Reading -/

/-- Whether a character is a sign on its own. -/
def isMark (c : Char) : Bool := c ∈ ['!', '~', '-', '+']

theorem isMark_char (mark : Mark) : isMark mark.char = true := by
  cases mark <;> rfl

/-- No sign belongs to words. -/
theorem isMark_of_inWord {c : Char} (h : InWord c = true) : isMark c = false := by
  cases hmark : isMark c with
  | false => rfl
  | true =>
      have hsigns : c = '!' ∨ c = '~' ∨ c = '-' ∨ c = '+' := by simpa [isMark] using hmark
      rcases hsigns with rfl | rfl | rfl | rfl <;> exact absurd h (by decide)

/-- What can stand behind the text of a tree: nothing, or something that ends it. -/
def Stops (rest : List Char) : Prop := ∀ c ∈ rest.head?, c = ' ' ∨ c = ')'

theorem stops_nil : Stops [] := fun _ hhead => by cases hhead

theorem stops_cons {c : Char} (h : c = ' ' ∨ c = ')') (rest : List Char) : Stops (c :: rest) := by
  intro first hhead
  obtain rfl := Option.some.inj hhead
  exact h

theorem Stops.endsRun {rest : List Char} {p : Char → Bool} (h : Stops rest)
    (hblank : p ' ' = false) (hparen : p ')' = false) : Text.EndsRun p rest := by
  intro c hhead
  rcases h c hhead with rfl | rfl
  · exact hblank
  · exact hparen

/-- Signs in front of something that begins with none are told by the text. -/
theorem lead_inj {lead other : List Mark} {rest tail : List Char}
    (h : lead.map Mark.char ++ rest = other.map Mark.char ++ tail)
    (hrest : Text.EndsRun isMark rest) (htail : Text.EndsRun isMark tail) :
    lead = other ∧ rest = tail := by
  have hmarks : ∀ marks : List Mark, ∀ c ∈ marks.map Mark.char, isMark c = true := by
    intro marks c hmem
    obtain ⟨mark, -, rfl⟩ := List.mem_map.mp hmem
    exact isMark_char mark
  obtain ⟨hlead, hsame⟩ := Text.append_inj_of_run h (hmarks lead) hrest (hmarks other) htail
  exact ⟨List.map_injective_iff.mpr Mark.char_injective hlead, hsame⟩

theorem trail_text_inj {trail other : List Twin}
    (h : trail.flatMap Twin.text = other.flatMap Twin.text) : trail = other := by
  induction trail generalizing other with
  | nil =>
      cases other with
      | nil => rfl
      | cons twin rest => cases h
  | cons twin rest ih =>
      cases other with
      | nil => cases h
      | cons second tail =>
          obtain ⟨hfirst, hbehind⟩ := List.cons.inj h
          rw [Twin.mark_injective (Mark.char_injective hfirst), ih (List.cons.inj hbehind).2]

/-- Signs behind an operand are told by the text. -/
theorem trail_inj {trail other : List Twin} {rest tail : List Char}
    (h : trail.flatMap Twin.text ++ rest = other.flatMap Twin.text ++ tail)
    (hrest : Stops rest) (htail : Stops tail) : trail = other ∧ rest = tail := by
  have htwins : ∀ twins : List Twin, ∀ c ∈ twins.flatMap Twin.text, isMark c = true := by
    intro twins c hmem
    obtain ⟨twin, -, hc⟩ := List.mem_flatMap.mp hmem
    obtain rfl : c = twin.mark.char := by simpa [Twin.text] using hc
    exact isMark_char twin.mark
  obtain ⟨htrail, hsame⟩ := Text.append_inj_of_run h (htwins trail) (hrest.endsRun rfl rfl)
    (htwins other) (htail.endsRun rfl rfl)
  exact ⟨trail_text_inj htrail, hsame⟩

/-- Neither signs nor what ends a text belong to words. -/
theorem endsRun_trail (trail : List Twin) {rest : List Char} (hrest : Stops rest) :
    Text.EndsRun InWord (trail.flatMap Twin.text ++ rest) := by
  cases trail with
  | nil => exact hrest.endsRun rfl rfl
  | cons twin others => exact Text.endsRun_cons (by cases twin <;> rfl) _

end Phrase

theorem Word.inWord (word : Word) : ∀ c ∈ word.text.toList, InWord c = true :=
  List.all_eq_true.mp word.plain

theorem Word.exists_cons (word : Word) :
    ∃ c rest, word.text.toList = c :: rest ∧ InWord c = true := by
  have hword := word.inWord
  cases htext : word.text.toList with
  | nil => exact absurd (String.toList_eq_nil_iff.mp htext) word.nonempty
  | cons c rest =>
      rw [htext] at hword
      exact ⟨c, rest, rfl, hword c (List.mem_cons_self ..)⟩

namespace Phrase

theorem endsRun_word (word : Word) (rest : List Char) :
    Text.EndsRun isMark (word.text.toList ++ rest) := by
  obtain ⟨c, others, htext, hc⟩ := word.exists_cons
  rw [htext]
  exact Text.endsRun_cons (isMark_of_inWord hc) _

theorem endsRun_paren (rest : List Char) : Text.EndsRun isMark ('(' :: rest) :=
  Text.endsRun_cons rfl rest

/-- No word begins like a call in parentheses. -/
theorem word_ne_paren (word : Word) (rest tail : List Char) :
    word.text.toList ++ rest ≠ '(' :: tail := by
  obtain ⟨c, others, htext, hc⟩ := word.exists_cons
  rw [htext]
  intro h
  obtain rfl := (List.cons.inj h).1
  exact absurd hc (by decide)

/-- A word is told by a text, and so is where it ends. -/
theorem word_inj {word other : Word} {trail others : List Twin} {rest tail : List Char}
    (h : word.text.toList ++ (trail.flatMap Twin.text ++ rest) =
      other.text.toList ++ (others.flatMap Twin.text ++ tail))
    (hrest : Stops rest) (htail : Stops tail) : word = other ∧ trail = others ∧ rest = tail := by
  obtain ⟨hword, hbehind⟩ := Text.append_inj_of_run h word.inWord (endsRun_trail trail hrest)
    other.inWord (endsRun_trail others htail)
  exact ⟨Word.ext (String.toList_inj.mp hword), trail_inj hbehind hrest htail⟩

/-- The name between two operands is told by a text. -/
theorem name_inj {sign other : Sign 2} {rest tail : List Char}
    (h : sign.name.toList ++ ' ' :: rest = other.name.toList ++ ' ' :: tail) :
    sign = other ∧ rest = tail := by
  have hblanks : ∀ name ∈ Operator.binary, ' ' ∉ name.toList := by decide
  have hnames (sign : Sign 2) : ∀ c ∈ sign.name.toList, decide (c ≠ ' ') = true :=
    fun c hmem => decide_eq_true fun hc => hblanks _ (mem_binary sign) (hc ▸ hmem)
  have hblank (rest : List Char) : Text.EndsRun (fun c => c ≠ ' ') (' ' :: rest) :=
    Text.endsRun_cons (by decide) rest
  obtain ⟨hname, hbehind⟩ := Text.append_inj_of_run h (hnames sign) (hblank rest)
    (hnames other) (hblank tail)
  exact ⟨Sign.ext (String.toList_inj.mp hname), (List.cons.inj hbehind).2⟩

theorem text_word (lead : List Mark) (atom : Word) (trail : List Twin) (rest : List Char) :
    (word lead atom trail).tree.text ++ rest = lead.map Mark.char ++ (atom.text.toList ++
      (trail.flatMap Twin.text ++ rest)) := by
  rw [tree, Tree.text_wrap, List.append_assoc, List.append_assoc]
  rfl

theorem text_binary (lead : List Mark) (sign : Sign 2) (left right : Phrase) (trail : List Twin)
    (rest : List Char) :
    (binary lead sign left right trail).tree.text ++ rest =
      lead.map Mark.char ++ '(' :: (left.tree.text ++ ' ' :: (sign.name.toList ++
        ' ' :: (right.tree.text ++ ')' ::
          (trail.flatMap Twin.text ++ rest)))) := by
  rw [tree, Tree.text_wrap, Tree.text_binary]
  simp only [List.append_assoc, List.cons_append, List.nil_append]

/-- A text tells its phrase and where it ends, whatever stands behind it that stops it. -/
theorem text_inj {phrase other : Phrase} {rest tail : List Char}
    (h : phrase.tree.text ++ rest = other.tree.text ++ tail) (hrest : Stops rest)
    (htail : Stops tail) : phrase = other ∧ rest = tail := by
  have hblank (rest : List Char) : Stops (' ' :: rest) := stops_cons (by decide) rest
  have hparen (rest : List Char) : Stops (')' :: rest) := stops_cons (by decide) rest
  induction phrase generalizing other rest tail with
  | word lead atom trail =>
      cases other with
      | word leads another trails =>
          rw [text_word, text_word] at h
          obtain ⟨rfl, hcore⟩ := lead_inj h (endsRun_word atom _) (endsRun_word another _)
          obtain ⟨rfl, rfl, rfl⟩ := word_inj hcore hrest htail
          exact ⟨rfl, rfl⟩
      | binary leads sign left right trails =>
          rw [text_word, text_binary] at h
          obtain ⟨-, hcore⟩ := lead_inj h (endsRun_word atom _) (endsRun_paren _)
          exact absurd hcore (word_ne_paren atom _ _)
  | binary lead sign left right trail ihLeft ihRight =>
      cases other with
      | word leads atom trails =>
          rw [text_word, text_binary] at h
          obtain ⟨-, hcore⟩ := lead_inj h (endsRun_paren _) (endsRun_word atom _)
          exact absurd hcore.symm (word_ne_paren atom _ _)
      | binary leads another first second trails =>
          rw [text_binary, text_binary] at h
          obtain ⟨rfl, hcore⟩ := lead_inj h (endsRun_paren _) (endsRun_paren _)
          obtain ⟨rfl, hname⟩ := ihLeft (List.cons.inj hcore).2 (hblank _) (hblank _)
          obtain ⟨rfl, hright⟩ := name_inj (List.cons.inj hname).2
          obtain ⟨rfl, hbehind⟩ := ihRight hright (hparen _) (hparen _)
          obtain ⟨rfl, rfl⟩ := trail_inj (List.cons.inj hbehind).2 hrest htail
          exact ⟨rfl, rfl⟩

end Phrase

namespace Tree

/-- Two trees have one text exactly if they come to the same but for the grouping of signs. -/
theorem render_eq_iff (tree other : Tree) : tree.render = other.render ↔ tree.Alike other := by
  refine ⟨fun h => ?_, Alike.render_eq⟩
  obtain ⟨first, hfirst⟩ := Phrase.exists_alike tree
  obtain ⟨second, hsecond⟩ := Phrase.exists_alike other
  have htext : first.tree.text ++ [] = second.tree.text ++ [] := by
    rw [text, text, ← hfirst.render_eq, h, hsecond.render_eq]
  obtain ⟨rfl, -⟩ := Phrase.text_inj htext Phrase.stops_nil Phrase.stops_nil
  exact hfirst.trans hsecond.symm

/-- Minus in front of an operand, and two of them. -/
def negation : Sign 1 := .ofLeading "-" (by decide)

def decrement : Sign 1 := .ofLeading "--" (by decide)

def letter : Word := ⟨"x", by decide, by decide⟩

/-- Which of the signs around a word comes first is not told by the text either. -/
example :
    (unary negation (unary Twin.plus.behind (word letter))).render = "-x++" ∧
      (unary Twin.plus.behind (unary negation (word letter))).render = "-x++" := by
  decide

/-- Two different trees with one text: the negation of a negation is written as a decrement. -/
theorem render_negation_twice :
    unary negation (unary negation (word letter)) ≠ unary decrement (word letter) ∧
      (unary negation (unary negation (word letter))).render = "--x" ∧
      (unary decrement (word letter)).render = "--x" := by
  refine ⟨fun h => ?_, by decide, by decide⟩
  have hname : "-" = "--" := congrArg Sign.name (unary.inj h).1
  exact absurd hname (by decide)

end Tree

end VisualScript.Operator
