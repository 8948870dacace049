import GraphFixture.Proofs.Block.Unambiguity

/-!
# Names among the words of a block list

A word is read together with its two neighbours.  A word that starts like a name
declares the name when it follows the word that opens a declaration, and
otherwise refers to a node.  Block by block this gives one declared name and
four references for each declaration, and nothing for a trailer.
-/

namespace GraphFixture

/-- A place in a list: the item there and the items next to it. -/
structure Site (α : Type) where
  before : Option α
  item : α
  after : Option α
  deriving DecidableEq, Repr

namespace Site

variable {α : Type}

/-- The places of a list that stands between two neighbours. -/
def between (before after : Option α) : List α → List (Site α)
  | [] => []
  | item :: rest => ⟨before, item, rest.head?.or after⟩ :: between (some item) after rest

/-- The places of a list in order. -/
def all (items : List α) : List (Site α) :=
  between none none items

theorem between_append (before after : Option α) (first second : List α) :
    between before after (first ++ second) =
      between before (second.head?.or after) first ++
        between (first.getLast?.or before) after second := by
  induction first generalizing before with
  | nil => simp [between]
  | cons item rest inductionHypothesis =>
      rw [List.cons_append, between, between, inductionHypothesis, List.head?_append,
        Option.or_assoc, List.cons_append]
      congr 2
      cases rest with
      | nil => simp
      | cons next others => simp [List.getLast?_cons]

end Site

/-- A word and its neighbours. -/
abbrev WordSite :=
  Site (List Char)

namespace WordSite

/-- The word opens a declaration. -/
def opens (site : WordSite) : Bool :=
  site.item = "node".toList

/-- The word follows one that opens a declaration. -/
def isDeclared (site : WordSite) : Bool :=
  site.before = some "node".toList

/-- The word starts like a name. -/
def isMention (site : WordSite) : Bool :=
  NodeName.stem.isPrefixOf site.item

end WordSite

/-- The place of a child's target among the words. -/
def Child.site (child : Child) (before : List Char) : WordSite :=
  ⟨some before, (NodeName.indexed child.target).text, some [child.label.letter]⟩

namespace Declaration

/-- The place of the name of a declaration among its words. -/
def nameSite (declaration : Declaration) : WordSite :=
  ⟨some "node".toList, declaration.name.text, some ['{']⟩

/-- The places of the references of a declaration among its words. -/
def referenceSites (declaration : Declaration) : List WordSite :=
  [declaration.first.site ['{'], declaration.second.site ['}', ','],
    declaration.third.site ['}', ','], declaration.fourth.site ['}', ',']]

theorem filter_isMention_between (declaration : Declaration) (before after : Option (List Char)) :
    (Site.between before after declaration.words).filter WordSite.isMention =
      declaration.nameSite :: declaration.referenceSites := by
  obtain ⟨name, ⟨_, _, ⟨⟩⟩, ⟨_, _, ⟨⟩⟩, ⟨_, _, ⟨⟩⟩, ⟨_, _, ⟨⟩⟩⟩ := declaration
  cases name <;>
    simp [Site.between, words, Child.words, Child.site, WordSite.isMention, NodeName.text,
      NodeName.stem, nameSite, referenceSites, Action.word]

theorem filter_opens_between (declaration : Declaration) (before after : Option (List Char)) :
    (Site.between before after declaration.words).filter WordSite.opens =
      [⟨before, "node".toList, some declaration.name.text⟩] := by
  obtain ⟨name, ⟨_, _, ⟨⟩⟩, ⟨_, _, ⟨⟩⟩, ⟨_, _, ⟨⟩⟩, ⟨_, _, ⟨⟩⟩⟩ := declaration
  cases name <;>
    simp [Site.between, words, Child.words, WordSite.opens, NodeName.text, NodeName.stem,
      Action.word]

/-- Of the words that start like names, only the first one is declared. -/
theorem filter_not_isDeclared (declaration : Declaration) :
    (declaration.nameSite :: declaration.referenceSites).filter (fun site => !site.isDeclared) =
      declaration.referenceSites := by
  simp [nameSite, referenceSites, Child.site, WordSite.isDeclared]

theorem exists_child_of_mem_referenceSites {declaration : Declaration} {site : WordSite}
    (member : site ∈ declaration.referenceSites) :
    ∃ child ∈ declaration.children, site.item = (NodeName.indexed child.target).text ∧
      site.after = some [child.label.letter] := by
  simp only [referenceSites, List.mem_cons, List.not_mem_nil, or_false] at member
  rcases member with rfl | rfl | rfl | rfl
  · exact ⟨declaration.first, by simp [children], rfl, rfl⟩
  · exact ⟨declaration.second, by simp [children], rfl, rfl⟩
  · exact ⟨declaration.third, by simp [children], rfl, rfl⟩
  · exact ⟨declaration.fourth, by simp [children], rfl, rfl⟩

/-- Only the last word of a declaration is the one that closes it, and only the
first one opens it. -/
theorem dropWhile_words_tail (declaration : Declaration) (rest : List (List Char)) :
    (declaration.words.tail ++ rest).dropWhile (· ≠ ['}', ';']) = ['}', ';'] :: rest := by
  obtain ⟨name, ⟨_, _, ⟨⟩⟩, ⟨_, _, ⟨⟩⟩, ⟨_, _, ⟨⟩⟩, ⟨_, _, ⟨⟩⟩⟩ := declaration
  cases name <;> simp [words, Child.words, NodeName.text, NodeName.stem, Action.word]

theorem node_not_mem_words_tail (declaration : Declaration) :
    "node".toList ∉ declaration.words.tail := by
  obtain ⟨name, ⟨_, _, ⟨⟩⟩, ⟨_, _, ⟨⟩⟩, ⟨_, _, ⟨⟩⟩, ⟨_, _, ⟨⟩⟩⟩ := declaration
  cases name <;> simp [words, Child.words, NodeName.text, NodeName.stem, Action.word]

theorem keyword_not_mem_words (declaration : Declaration) {keyword : List Char}
    (isKeyword : keyword ∈ ["phase".toList, "passes".toList, "pass".toList]) :
    keyword ∉ declaration.words := by
  obtain ⟨name, ⟨_, _, ⟨⟩⟩, ⟨_, _, ⟨⟩⟩, ⟨_, _, ⟨⟩⟩, ⟨_, _, ⟨⟩⟩⟩ := declaration
  simp only [List.mem_cons, List.not_mem_nil, or_false] at isKeyword
  rcases isKeyword with rfl | rfl | rfl <;> cases name <;>
    simp [words, Child.words, NodeName.text, NodeName.stem, Action.word]

end Declaration

namespace Block

/-- Whether a declaration is that of the root, if a block has one. -/
def isRoot? : Block → Option Bool
  | .node _ => some false
  | .root _ => some true
  | .trailer => none

/-- The words of a block that start like names are those of its declaration. -/
theorem filter_isMention_between (block : Block) (before after : Option (List Char)) :
    (Site.between before after block.words).filter WordSite.isMention =
      block.declaration?.toList.flatMap fun declaration =>
        declaration.nameSite :: declaration.referenceSites := by
  cases block with
  | node declaration =>
      simpa [words] using declaration.filter_isMention_between before after
  | root declaration =>
      have inside := declaration.filter_isMention_between (some "root".toList) after
      simpa [words, Site.between, WordSite.isMention, NodeName.stem] using inside
  | trailer => simp [words, Trailer.words, Trailer.phase, Trailer.pass, Site.between,
      WordSite.isMention, NodeName.stem]

theorem after_of_opens (block : Block) (before after : Option (List Char)) :
    ((Site.between before after block.words).filter WordSite.opens).map Site.after =
      block.declaration?.toList.map fun declaration => some declaration.name.text := by
  cases block with
  | node declaration =>
      simp [words, declaration.filter_opens_between]
  | root declaration =>
      have inside := declaration.filter_opens_between (some "root".toList) after
      simp_all [words, Site.between, WordSite.opens]
  | trailer => simp [words, Trailer.words, Trailer.phase, Trailer.pass, Site.between,
      WordSite.opens]

/-- The word for the root stands before a declaration exactly in a root block. -/
theorem before_of_opens (block : Block) {before : Option (List Char)}
    (apart : before ≠ some "root".toList) (after : Option (List Char)) :
    ((Site.between before after block.words).filter WordSite.opens).map
        (fun site => decide (site.before = some "root".toList)) =
      block.isRoot?.toList := by
  cases block with
  | node declaration =>
      simp_all [words, declaration.filter_opens_between, isRoot?]
  | root declaration =>
      have inside := declaration.filter_opens_between (some "root".toList) after
      simp_all [words, Site.between, WordSite.opens, isRoot?]
  | trailer => simp [words, Trailer.words, Trailer.phase, Trailer.pass, Site.between,
      WordSite.opens, isRoot?]

theorem getLast?_words_ne_root (block : Block) (before : Option (List Char)) :
    block.words.getLast?.or before ≠ some "root".toList := by
  cases block <;>
    simp [words, Declaration.words, Trailer.words, Trailer.pass, List.getLast?_append,
      List.getLast?_cons]

/-! ## Block lists -/

theorem filter_isMention_between_flatMap (blocks : List Block)
    (before after : Option (List Char)) :
    (Site.between before after (blocks.flatMap words)).filter WordSite.isMention =
      (blocks.filterMap declaration?).flatMap fun declaration =>
        declaration.nameSite :: declaration.referenceSites := by
  induction blocks generalizing before with
  | nil => rfl
  | cons block blocks inductionHypothesis =>
      rw [List.flatMap_cons, Site.between_append, List.filter_append, filter_isMention_between,
        inductionHypothesis]
      cases block <;> simp [List.filterMap_cons]

/-- The words behind those that open a declaration are the names in order. -/
theorem after_of_opens_flatMap (blocks : List Block) (before after : Option (List Char)) :
    ((Site.between before after (blocks.flatMap words)).filter WordSite.opens).map Site.after =
      (blocks.filterMap declaration?).map fun declaration => some declaration.name.text := by
  induction blocks generalizing before with
  | nil => rfl
  | cons block blocks inductionHypothesis =>
      rw [List.flatMap_cons, Site.between_append, List.filter_append, List.map_append,
        after_of_opens, inductionHypothesis]
      cases block <;> simp [List.filterMap_cons]

theorem before_of_opens_flatMap (blocks : List Block) {before : Option (List Char)}
    (apart : before ≠ some "root".toList) (after : Option (List Char)) :
    ((Site.between before after (blocks.flatMap words)).filter WordSite.opens).map
        (fun site => decide (site.before = some "root".toList)) =
      blocks.filterMap isRoot? := by
  induction blocks generalizing before with
  | nil => rfl
  | cons block blocks inductionHypothesis =>
      rw [List.flatMap_cons, Site.between_append, List.filter_append, List.map_append,
        before_of_opens block apart,
        inductionHypothesis (block.getLast?_words_ne_root before)]
      cases block <;> simp [isRoot?, List.filterMap_cons]

end Block
end GraphFixture
