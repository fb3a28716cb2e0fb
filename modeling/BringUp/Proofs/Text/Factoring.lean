import BringUp.Proofs.Text.Parts

/-!
# Where references stand in a text

A reference to a name stands in a text wherever the name is spelled in braces behind a dollar sign.
As long as no name has a dollar sign or a closing brace, two references never overlap. So a text
falls apart into all the references in it and the literals around them, in one way only, and this is
how it is read.

* `RefersAt`: a reference stands at a place of a text.
* `RefersAt.eq_or_disjoint`: references do not overlap.
* `Factoring.Cuts`: a text is cut at all of its references.
* `existsUnique_cuts`: every text can be cut in exactly one way.
* `exists_around`: the pieces before a reference are those of the text before it.
* `Factoring.Cuts.templatePieces_eq`: the pieces of a text are those of the cut.
-/

namespace BringUp.Text

/-- A name that a reference may have: one or more characters that may stand in a name. -/
structure IsName (inName : Char → Bool) (name : List Char) : Prop where
  /-- It is not empty. -/
  ne_nil : name ≠ []
  /-- All of its characters may stand in a name. -/
  all : name.all inName = true

/-- A reference to a name stands at a place of a text. -/
structure RefersAt (inName : Char → Bool) (text : List Char) (place : Nat) (name : List Char) :
    Prop where
  /-- The name is one. -/
  isName : IsName inName name
  /-- The reference is spelled there. -/
  spelled : (Piece.reference name).spell <+: text.drop place

section

variable {inName : Char → Bool} {text name : List Char} {place : Nat}

/-- A reference stands between a part of the text before it and another one after it. -/
theorem refersAt_iff : RefersAt inName text place name ↔ IsName inName name ∧
    ∃ left right, text = left ++ ((Piece.reference name).spell ++ right) ∧
      left.length = place := by
  constructor
  · rintro ⟨hname, right, hright⟩
    have hplace : place ≤ text.length := by
      have hlength := congrArg List.length hright
      simp only [Piece.spell, List.length_append, List.length_cons, List.length_drop] at hlength
      omega
    refine ⟨hname, text.take place, right, ?_, List.length_take_of_le hplace⟩
    rw [hright, List.take_append_drop]
  · rintro ⟨hname, left, right, rfl, rfl⟩
    refine ⟨hname, ?_⟩
    rw [List.drop_left]
    exact List.prefix_append _ _

/-- In the rest of a text stand the references that stand there in the text. -/
theorem refersAt_drop (skip : Nat) :
    RefersAt inName (text.drop skip) place name ↔ RefersAt inName text (skip + place) name := by
  constructor
  · rintro ⟨hname, hspelled⟩
    exact ⟨hname, by rwa [List.drop_drop] at hspelled⟩
  · rintro ⟨hname, hspelled⟩
    exact ⟨hname, by rwa [List.drop_drop]⟩

/-- References that stand at the front of a text stand in the text. -/
theorem RefersAt.append (h : RefersAt inName text place name) (rest : List Char) :
    RefersAt inName (text ++ rest) place name := by
  obtain ⟨hname, left, right, rfl, rfl⟩ := refersAt_iff.1 h
  exact refersAt_iff.2 ⟨hname, left, right ++ rest, by simp, rfl⟩

/-- A reference that is read has a name. -/
theorem isName_of_reference? (h : reference? inName text = some name) : IsName inName name := by
  unfold reference? at h
  split at h
  · rename_i rest
    split at h
    · rename_i c more _ hmore _
      cases h
      refine ⟨List.cons_ne_nil _ _, ?_⟩
      rw [← hmore]
      exact List.all_takeWhile
    · cases h
  · cases h

/-- The pieces of a text that are references have names. -/
theorem isName_of_mem_templatePieces (h : .reference name ∈ templatePieces inName text) :
    IsName inName name := by
  suffices hafter : ∀ skip, .reference name ∈ piecesAfter inName skip text → IsName inName name from
    hafter 0 h
  clear h
  induction text with
  | nil => simp [piecesAfter]
  | cons c text ih =>
    intro skip h
    cases skip with
    | succ skip => exact ih skip h
    | zero =>
      simp only [piecesAfter] at h
      split at h
      · rename_i name' hname
        rcases List.mem_cons.1 h with heq | hrest
        · cases heq
          exact isName_of_reference? hname
        · exact ih _ hrest
      · rcases List.mem_cons.1 h with heq | hrest
        · cases heq
        · exact ih 0 hrest

/-- A reference among the pieces of a text stands behind the pieces before it. -/
theorem refersAt_of_templatePieces {before after : List Piece}
    (h : templatePieces inName text = before ++ .reference name :: after) :
    RefersAt inName text (before.flatMap Piece.spell).length name := by
  have hmem : .reference name ∈ templatePieces inName text := by simp [h]
  have hname : IsName inName name := isName_of_mem_templatePieces hmem
  refine refersAt_iff.2
    ⟨hname, before.flatMap Piece.spell, after.flatMap Piece.spell, ?_, rfl⟩
  rw [← spell_pieces inName text, h, List.flatMap_append, List.flatMap_cons]

/-- A text in which no reference stands is read character by character. -/
theorem templatePieces_of_plain (h : ∀ place name, ¬ RefersAt inName text place name) :
    templatePieces inName text = text.map .char := by
  have hchar : ∀ piece ∈ templatePieces inName text, ∃ c, piece = .char c := by
    intro piece hpiece
    cases piece with
    | char c => exact ⟨c, rfl⟩
    | reference name =>
      obtain ⟨before, after, heq⟩ := List.append_of_mem hpiece
      exact absurd (refersAt_of_templatePieces heq) (h _ name)
  -- Pieces that are all characters are those of the text that they spell.
  have hpieces (pieces : List Piece) (hall : ∀ piece ∈ pieces, ∃ c, piece = .char c) :
      pieces = (pieces.flatMap Piece.spell).map .char := by
    induction pieces with
    | nil => rfl
    | cons piece pieces ih =>
      obtain ⟨⟨c, rfl⟩, hrest⟩ := List.forall_mem_cons.1 hall
      rw [List.flatMap_cons, List.map_append, ← ih hrest]
      rfl
  rw [hpieces _ hchar, spell_pieces]

end

/-- The name of a reference has none of the characters that mark one. -/
structure Unmarked (inName : Char → Bool) : Prop where
  /-- No dollar sign stands in a name. -/
  dollar : inName '$' = false
  /-- No closing brace stands in a name. -/
  close : inName '\x7d' = false

variable {inName : Char → Bool} {text name name' : List Char} {place place' : Nat}

/-- A text may be read in three parts around a reference. -/
theorem templatePieces_around (hmarks : Unmarked inName) (hname : IsName inName name)
    (left right : List Char) :
    templatePieces inName (left ++ ((Piece.reference name).spell ++ right)) =
      templatePieces inName left ++ .reference name :: templatePieces inName right := by
  rw [templatePieces_append_spell hmarks.dollar,
    templatePieces_spell hname.ne_nil hname.all hmarks.close]

/-- Two fronts of the same pieces that spell the same are the same. -/
theorem eq_of_prefix_of_spell {front front' pieces : List Piece} (hfront : front <+: pieces)
    (hfront' : front' <+: pieces) (h : front.flatMap Piece.spell = front'.flatMap Piece.spell) :
    front = front' := by
  have hempty {front rest : List Piece}
      (h : (front ++ rest).flatMap Piece.spell = front.flatMap Piece.spell) : rest = [] := by
    rw [List.flatMap_append, List.append_right_eq_self, List.flatMap_eq_nil_iff] at h
    refine List.eq_nil_iff_forall_not_mem.2 fun piece hpiece => ?_
    cases piece with
    | char c => exact List.cons_ne_nil _ _ (h _ hpiece)
    | reference name => exact List.cons_ne_nil _ _ (h _ hpiece)
  rcases List.prefix_or_prefix_of_prefix hfront hfront' with ⟨rest, rfl⟩ | ⟨rest, rfl⟩
  · rw [hempty h.symm, List.append_nil]
  · rw [hempty h, List.append_nil]

/-- The pieces before a reference are those of the text before it. -/
theorem exists_around (hmarks : Unmarked inName) {before after : List Piece}
    (h : templatePieces inName text = before ++ .reference name :: after) :
    IsName inName name ∧ ∃ left right, text = left ++ ((Piece.reference name).spell ++ right) ∧
      templatePieces inName left = before := by
  have hmem : .reference name ∈ templatePieces inName text := by simp [h]
  have hname : IsName inName name := isName_of_mem_templatePieces hmem
  have htext : text = before.flatMap Piece.spell ++
      ((Piece.reference name).spell ++ after.flatMap Piece.spell) := by
    rw [← spell_pieces inName text, h, List.flatMap_append, List.flatMap_cons]
  refine ⟨hname, _, _, htext, ?_⟩
  have haround := templatePieces_around hmarks hname (before.flatMap Piece.spell)
    (after.flatMap Piece.spell)
  rw [← htext] at haround
  refine eq_of_prefix_of_spell ?_ (h ▸ List.prefix_append _ _) (spell_pieces _ _)
  exact haround ▸ List.prefix_append _ _

namespace RefersAt

/-- At one place stands one reference at most. -/
theorem name_unique (hmarks : Unmarked inName) (h : RefersAt inName text place name)
    (h' : RefersAt inName text place name') : name = name' := by
  have hread {name : List Char} (h : RefersAt inName text place name) :
      reference? inName (text.drop place) = some name := by
    obtain ⟨right, hright⟩ := h.spelled
    rw [← hright]
    exact reference?_spell h.isName.ne_nil h.isName.all hmarks.close right
  exact Option.some.inj ((hread h).symm.trans (hread h'))

/-- A reference ends before the next one starts: there is a dollar sign at the start of a reference
and none in the rest of it. -/
theorem add_length_le (hmarks : Unmarked inName) (h : RefersAt inName text place name)
    (h' : RefersAt inName text place' name') (hlt : place < place') :
    place + name.length + 3 ≤ place' := by
  by_contra hoverlap
  obtain ⟨right, hright⟩ := h.spelled
  obtain ⟨right', hright'⟩ := h'.spelled
  have hinside : place' - place - 1 < ('\x7b' :: name ++ ['\x7d']).length := by
    simp only [List.length_append, List.length_cons, List.length_nil]
    omega
  have hdollar : text[place']? = some '$' := by
    have hstart := congrArg (fun cs => cs[0]?) hright'
    simpa [Piece.spell] using hstart.symm
  have hrest : text[place']? = ('\x7b' :: name ++ ['\x7d'])[place' - place - 1]? := by
    have hcons : (Piece.reference name).spell ++ right =
        '$' :: (('\x7b' :: name ++ ['\x7d']) ++ right) := by simp [Piece.spell]
    have hthere := congrArg (fun cs => cs[place' - place]?) hright
    simp only [List.getElem?_drop, hcons] at hthere
    rw [Nat.add_sub_cancel' hlt.le, List.getElem?_cons,
      if_neg (Nat.sub_ne_zero_of_lt hlt), List.getElem?_append_left hinside] at hthere
    exact hthere.symm
  have hmem : '$' ∈ '\x7b' :: name ++ ['\x7d'] :=
    List.mem_of_getElem? (hrest.symm.trans hdollar)
  have hname : '$' ∈ name := by simpa using hmem
  have hall := List.all_eq_true.1 h.isName.all '$' hname
  rw [hmarks.dollar] at hall
  cases hall

/-- Two references do not overlap: unless they are the same one, the one ends before the other one
starts. -/
theorem eq_or_disjoint (hmarks : Unmarked inName) (h : RefersAt inName text place name)
    (h' : RefersAt inName text place' name') :
    place = place' ∧ name = name' ∨ place + name.length + 3 ≤ place' ∨
      place' + name'.length + 3 ≤ place := by
  rcases lt_trichotomy place place' with hlt | rfl | hgt
  · exact .inr (.inl (h.add_length_le hmarks h' hlt))
  · exact .inl ⟨rfl, h.name_unique hmarks h'⟩
  · exact .inr (.inr (h'.add_length_le hmarks h hgt))

end RefersAt

/-! ### Cutting a text at its references -/

/-- A text with references in it: each of them with the literal before it, and the literal behind
the last one. -/
structure Factoring where
  /-- Literals, each with the name of the reference behind it. -/
  parts : List (List Char × List Char)
  /-- What stands behind the last reference. -/
  last : List Char

namespace Factoring

/-- The text with something in the place of each reference. -/
def fill (value : List Char → List Char) (f : Factoring) : List Char :=
  f.parts.flatMap (fun part => part.1 ++ value part.2) ++ f.last

/-- The text itself. -/
def spell (f : Factoring) : List Char := f.fill fun name => (Piece.reference name).spell

/-- The references behind literals that start at some place, with their places. -/
def placesFrom : Nat → List (List Char × List Char) → List (Nat × List Char)
  | _, [] => []
  | start, (literal, name) :: parts =>
    (start + literal.length, name) :: placesFrom (start + literal.length + name.length + 3) parts

/-- The references with their places. -/
def places (f : Factoring) : List (Nat × List Char) := placesFrom 0 f.parts

/-- The pieces: the literals character by character, and the references. -/
def pieces (f : Factoring) : List Piece :=
  f.parts.flatMap (fun part => part.1.map .char ++ [.reference part.2]) ++ f.last.map .char

/-- Puts a piece before a text. -/
def cons : Piece → Factoring → Factoring
  | .reference name, f => { f with parts := ([], name) :: f.parts }
  | .char c, ⟨[], last⟩ => ⟨[], c :: last⟩
  | .char c, ⟨(literal, name) :: parts, last⟩ => ⟨(c :: literal, name) :: parts, last⟩

/-- The text of pieces. -/
def ofPieces (pieces : List Piece) : Factoring := pieces.foldr cons ⟨[], []⟩

/-- The text is cut at all the references that stand in it: none stands inside a literal, or across
some of them. -/
structure Cuts (inName : Char → Bool) (text : List Char) (f : Factoring) : Prop where
  /-- The literals and the references spell the text. -/
  spelled : f.spell = text
  /-- The references are all that stand in the text. -/
  all : ∀ place name, RefersAt inName text place name ↔ (place, name) ∈ f.places

/-- Filling in goes piece by piece. -/
theorem fill_eq (value : List Char → List Char) (expand : Piece → List Char)
    (hchar : ∀ c, expand (.char c) = [c])
    (hreference : ∀ name, expand (.reference name) = value name) (f : Factoring) :
    f.fill value = f.pieces.flatMap expand := by
  have hliteral (literal : List Char) : (literal.map .char).flatMap expand = literal := by
    simp [List.flatMap_map, hchar]
  obtain ⟨parts, last⟩ := f
  simp only [fill, pieces, List.flatMap_append, hliteral]
  congr 1
  induction parts with
  | nil => rfl
  | cons part parts ih => simp [hliteral, hreference, ih]

theorem pieces_cons (piece : Piece) (f : Factoring) :
    (f.cons piece).pieces = piece :: f.pieces := by
  obtain ⟨parts, last⟩ := f
  cases piece with
  | reference name => rfl
  | char c =>
    cases parts with
    | nil => rfl
    | cons part parts => rfl

theorem pieces_ofPieces (pieces : List Piece) : (ofPieces pieces).pieces = pieces := by
  induction pieces with
  | nil => rfl
  | cons piece rest ih =>
    have hcons : ofPieces (piece :: rest) = (ofPieces rest).cons piece := rfl
    rw [hcons, pieces_cons, ih]

/-- The pieces of a cut tell the cut. -/
theorem ofPieces_pieces (f : Factoring) : ofPieces f.pieces = f := by
  have hliteral (literal : List Char) (name : List Char) (parts : List (List Char × List Char))
      (last : List Char) : (literal.map .char).foldr cons ⟨([], name) :: parts, last⟩ =
        ⟨(literal, name) :: parts, last⟩ := by
    induction literal with
    | nil => rfl
    | cons c literal ih => rw [List.map_cons, List.foldr_cons, ih]; rfl
  have hlast (last : List Char) : (last.map .char).foldr cons ⟨[], []⟩ = ⟨[], last⟩ := by
    induction last with
    | nil => rfl
    | cons c last ih => rw [List.map_cons, List.foldr_cons, ih]; rfl
  obtain ⟨parts, last⟩ := f
  simp only [ofPieces, pieces, List.foldr_append, hlast]
  induction parts with
  | nil => rfl
  | cons part parts ih =>
    rw [List.flatMap_cons, List.foldr_append, ih, List.foldr_append]
    exact hliteral part.1 part.2 parts last

theorem placesFrom_add (skip start : Nat) (parts : List (List Char × List Char)) :
    placesFrom (skip + start) parts =
      (placesFrom start parts).map fun found => (skip + found.1, found.2) := by
  induction parts generalizing start with
  | nil => rfl
  | cons part parts ih =>
    simp only [placesFrom, List.map_cons, ← ih, Nat.add_assoc]

/-- Behind a longer start the references have their places later. -/
theorem mem_placesFrom_add {skip start : Nat} {parts : List (List Char × List Char)} :
    (place, name) ∈ placesFrom (skip + start) parts ↔
      ∃ behind, (behind, name) ∈ placesFrom start parts ∧ skip + behind = place := by
  rw [placesFrom_add, List.mem_map]
  constructor
  · rintro ⟨⟨behind, name'⟩, hmem, heq⟩
    cases heq
    exact ⟨behind, hmem, rfl⟩
  · rintro ⟨behind, hmem, rfl⟩
    exact ⟨_, hmem, rfl⟩

/-- A text that starts with a literal and a reference has that one first. -/
theorem mem_places_first {literal name' last : List Char} {parts : List (List Char × List Char)} :
    (place, name) ∈ (⟨(literal, name') :: parts, last⟩ : Factoring).places ↔
      place = literal.length ∧ name = name' ∨
        ∃ behind, (behind, name) ∈ (⟨parts, last⟩ : Factoring).places ∧
          literal.length + name'.length + 3 + behind = place := by
  have hplaces : (⟨(literal, name') :: parts, last⟩ : Factoring).places =
      (0 + literal.length, name') ::
        placesFrom (0 + literal.length + name'.length + 3 + 0) parts := rfl
  rw [hplaces, Nat.zero_add, List.mem_cons, mem_placesFrom_add, Prod.mk.injEq]
  rfl

/-- A reference in a text that starts with a piece is that piece or stands behind it. -/
theorem mem_places_cons {piece : Piece} {f : Factoring} :
    (place, name) ∈ (f.cons piece).places ↔
      piece = .reference name ∧ place = 0 ∨
        ∃ behind, (behind, name) ∈ f.places ∧ piece.spell.length + behind = place := by
  obtain ⟨parts, last⟩ := f
  cases piece with
  | char c =>
    have hone : (Piece.char c).spell.length = 1 := rfl
    -- The literal at the start of the text is longer by one character.
    have hshift : (cons (.char c) ⟨parts, last⟩).places = placesFrom (1 + 0) parts := by
      cases parts with
      | nil => rfl
      | cons part parts => simp [cons, places, placesFrom, Nat.add_comm]
    rw [hshift, hone, mem_placesFrom_add]
    simp [places]
  | reference name' =>
    have hlength : (Piece.reference name').spell.length = 0 + name'.length + 3 := by
      simp [Piece.spell]
    rw [hlength]
    refine mem_places_first.trans (or_congr_left ?_)
    simp [and_comm, eq_comm]

/-- A reference has the place where the pieces before it end. -/
theorem mem_places_ofPieces {pieces : List Piece} : (place, name) ∈ (ofPieces pieces).places ↔
    ∃ before after, pieces = before ++ .reference name :: after ∧
      (before.flatMap Piece.spell).length = place := by
  induction pieces generalizing place with
  | nil => simp [ofPieces, places, placesFrom]
  | cons piece pieces ih =>
    have hcons : ofPieces (piece :: pieces) = (ofPieces pieces).cons piece := rfl
    rw [hcons, mem_places_cons]
    constructor
    · rintro (⟨rfl, rfl⟩ | ⟨behind, hbehind, rfl⟩)
      · exact ⟨[], pieces, rfl, rfl⟩
      · obtain ⟨before, after, rfl, rfl⟩ := ih.1 hbehind
        exact ⟨piece :: before, after, rfl, by simp⟩
    · rintro ⟨before, after, heq, rfl⟩
      cases before with
      | nil => exact .inl ⟨(List.cons.inj heq).1, rfl⟩
      | cons head before =>
        obtain ⟨rfl, hrest⟩ := List.cons.inj heq
        exact .inr ⟨_, ih.2 ⟨before, after, hrest, rfl⟩, by simp⟩

/-- The pieces of a text cut it at all of its references. -/
theorem cuts_ofPieces (hmarks : Unmarked inName) (text : List Char) :
    (ofPieces (templatePieces inName text)).Cuts inName text where
  spelled := by
    rw [spell, fill_eq _ Piece.spell (fun _ => rfl) fun _ => rfl, pieces_ofPieces, spell_pieces]
  all place name := by
    rw [mem_places_ofPieces]
    constructor
    · intro h
      obtain ⟨hname, left, right, rfl, rfl⟩ := refersAt_iff.1 h
      exact ⟨_, _, templatePieces_around hmarks hname left right, by rw [spell_pieces]⟩
    · rintro ⟨before, after, heq, rfl⟩
      exact refersAt_of_templatePieces heq

namespace Cuts

variable {f : Factoring} {literal last : List Char} {parts : List (List Char × List Char)}

/-- In a text that is a single literal no reference stands. -/
theorem plain (h : Cuts inName text ⟨[], last⟩) :
    text = last ∧ ∀ place name, ¬ RefersAt inName text place name := by
  refine ⟨h.spelled.symm, fun place name hrefers => ?_⟩
  have hmem : (place, name) ∈ ([] : List (Nat × List Char)) := (h.all place name).1 hrefers
  cases hmem

/-- The first reference of a text stands behind a literal in which no reference stands, and the rest
of the text is cut as well. -/
theorem first (h : Cuts inName text ⟨(literal, name) :: parts, last⟩) :
    ∃ rest, text = literal ++ ((Piece.reference name).spell ++ rest) ∧ IsName inName name ∧
      (∀ place name, ¬ RefersAt inName literal place name) ∧ Cuts inName rest ⟨parts, last⟩ := by
  have htext : text =
      literal ++ ((Piece.reference name).spell ++ (⟨parts, last⟩ : Factoring).spell) := by
    rw [← h.spelled]
    simp [spell, fill]
  have hlength : (literal ++ (Piece.reference name).spell).length =
      literal.length + name.length + 3 := by
    simp [Piece.spell, Nat.add_assoc]
  refine ⟨_, htext, ?_, fun place name' hrefers => ?_, rfl, fun place name' => ?_⟩
  · exact ((h.all literal.length name).2 (mem_places_first.2 (.inl ⟨rfl, rfl⟩))).isName
  · -- A reference in the literal would stand before the first one.
    have hmem := (h.all place name').1 (by rw [htext]; exact hrefers.append _)
    obtain ⟨-, left, right, heq, rfl⟩ := refersAt_iff.1 hrefers
    have hlt : left.length < literal.length := by
      rw [heq]
      simp [Piece.spell]
    rcases mem_places_first.1 hmem with ⟨hplace, -⟩ | ⟨behind, -, hplace⟩ <;> omega
  · have hrest : (⟨parts, last⟩ : Factoring).spell =
        text.drop (literal.length + name.length + 3) := by
      rw [htext, ← List.append_assoc, ← hlength, List.drop_left]
    rw [hrest, refersAt_drop, h.all, mem_places_first]
    constructor
    · rintro (⟨hplace, -⟩ | ⟨behind, hbehind, hplace⟩)
      · omega
      · obtain rfl : behind = place := by omega
        exact hbehind
    · exact fun hmem => .inr ⟨place, hmem, rfl⟩

/-- Where a text is cut at all of its references, it is read. -/
theorem templatePieces_eq (hmarks : Unmarked inName) (h : f.Cuts inName text) :
    templatePieces inName text = f.pieces := by
  obtain ⟨parts, last⟩ := f
  induction parts generalizing text with
  | nil =>
    obtain ⟨rfl, hnone⟩ := h.plain
    exact templatePieces_of_plain hnone
  | cons part parts ih =>
    obtain ⟨literal, name⟩ := part
    obtain ⟨rest, rfl, hname, hnone, hrest⟩ := h.first
    rw [templatePieces_around hmarks hname, templatePieces_of_plain hnone, ih hrest]
    simp [pieces]

end Cuts

end Factoring

/-- Every text is cut at all of its references in exactly one way. -/
theorem existsUnique_cuts (hmarks : Unmarked inName) (text : List Char) :
    ∃! f : Factoring, f.Cuts inName text := by
  refine ⟨_, Factoring.cuts_ofPieces hmarks text, fun f hf => ?_⟩
  rw [hf.templatePieces_eq hmarks, f.ofPieces_pieces]

end BringUp.Text
