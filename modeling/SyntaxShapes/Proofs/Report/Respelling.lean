import SyntaxShapes.Proofs.Report.Tally

/-!
# `SyntaxShapes.Proofs.Report.Respelling` — a keyword and its token say the same

A tree may have a keyword as a node of its own kind or as a bare token. Every test for a shape takes either for the
other, on the node itself and wherever it looks at another one. On the node, because a keyword decides all
shapes there are (`Shape.holds_iff_of_keywordAt?`); elsewhere, because no shape asks for a keyword around the
node, and what it does ask for is neither a keyword nor a token.

So a tree may be respelled, node by node and in either direction, and a report on it tells the difference by the
kinds that it shows, and by nothing else.

## Contents
- **Words.** `Payload.shapes_of_keyword?`, `Shape.holds_iff_of_keywordAt?`.
- **The same but for words.** `Arena.SameButWords`; the parts of shapes, `SameButWords.holds`.
- **Respelling.** `Node.asToken`, `Node.asKeyword`, `Arena.replace`; `sameButWords_replace`.
- **Reports.** `Report.withKind`, `build_replace`; `build_respelled`.
-/

namespace SyntaxShapes

/-! ## Words -/

theorem Payload.shapes_of_keyword? {p : Payload} {k : Keyword} (h : p.keyword? = some k) :
    p.shapes = k.shapes := by
  unfold keyword? at h
  split at h
  · obtain rfl := Option.some.inj h
    rfl
  · rename_i d
    show (Keyword.ofToken? d.token).elim [] Keyword.shapes = k.shapes
    rw [h]
    rfl
  · cases h

theorem Arena.keywordAt?_eq_some_iff {a : Arena} {i : NodeIndex} {k : Keyword} :
    a.keywordAt? i = some k ↔ ∃ p, a.payload? i = some p ∧ p.keyword? = some k :=
  Option.bind_eq_some_iff

/-- **A keyword decides all shapes of its node**, however it is spelled. -/
theorem Shape.holds_iff_of_keywordAt? {a : Arena} {i : NodeIndex} {k : Keyword} {s : Shape}
    (h : a.keywordAt? i = some k) : s.holds a i = true ↔ s ∈ k.shapes := by
  constructor
  · intro hs
    obtain ⟨p, hp, hk⟩ := Arena.keywordAt?_eq_some_iff.mp h
    obtain ⟨q, hq, hmem⟩ := mem_shapes_of_holds hs
    obtain rfl := Option.some.inj (hp.symm.trans hq)
    rwa [Payload.shapes_of_keyword? hk] at hmem
  · intro hs
    cases k with
    | true | false =>
        obtain rfl := List.mem_singleton.mp hs
        show a.isLiteral i = true
        unfold Arena.isLiteral
        split <;> simp [h]
    | null | undefined | nan =>
        obtain rfl := List.mem_singleton.mp hs
        simp [holds, Arena.isNullish, h]
    | this =>
        obtain rfl := List.mem_singleton.mp hs
        simp [holds, Arena.isThis, h]
    | super => cases hs

/-! ## The same but for words -/

/-- Whether two nodes have the same header and stand for the same keyword. -/
structure Node.SameWord (m n : Node) : Prop where
  flags : m.flags = n.flags
  pos : m.pos = n.pos
  stop : m.stop = n.stop
  parent : m.parent = n.parent
  keyword : ∃ k, m.payload.keyword? = some k ∧ n.payload.keyword? = some k

theorem Node.SameWord.symm {m n : Node} (h : m.SameWord n) : n.SameWord m :=
  ⟨h.flags.symm, h.pos.symm, h.stop.symm, h.parent.symm, h.keyword.imp fun _ => And.symm⟩

namespace Arena

/-- Whether two arenas have the same node at every position, or the same keyword. -/
def SameButWords (a b : Arena) : Prop :=
  ∀ i, a.get? i = b.get? i ∨ ∃ m n, a.get? i = some m ∧ b.get? i = some n ∧ m.SameWord n

namespace SameButWords

variable {a b : Arena}

theorem symm (h : SameButWords a b) : SameButWords b a := by
  intro i
  obtain hget | ⟨m, n, hm, hn, hword⟩ := h i
  · exact .inl hget.symm
  · exact .inr ⟨n, m, hn, hm, hword.symm⟩

theorem parentOf (h : SameButWords a b) (i : NodeIndex) : a.parentOf i = b.parentOf i := by
  obtain hget | ⟨m, n, hm, hn, hword⟩ := h i
  · exact parentOf_congr hget
  · rw [parentOf_eq_of_get? hm, parentOf_eq_of_get? hn, hword.parent]

/-- A node that is no word is the same in both trees. -/
theorem get?_of_get? (h : SameButWords a b) {i : NodeIndex} {n : Node} (hn : n.payload.keyword? = none)
    (ha : a.get? i = some n) : b.get? i = some n := by
  obtain hget | ⟨m, m', hm, -, hword⟩ := h i
  · rw [← hget, ha]
  · obtain rfl := Option.some.inj (ha.symm.trans hm)
    obtain ⟨k, hk, -⟩ := hword.keyword
    rw [hn] at hk
    cases hk

/-- What is no keyword stands in both arenas, if it stands in one. -/
theorem get?_iff (h : SameButWords a b) {i : NodeIndex} {n : Node} (hn : n.payload.keyword? = none) :
    a.get? i = some n ↔ b.get? i = some n :=
  ⟨h.get?_of_get? hn, h.symm.get?_of_get? hn⟩

theorem payload?_iff (h : SameButWords a b) (i : NodeIndex) (p : Payload) (hp : p.keyword? = none) :
    a.payload? i = some p ↔ b.payload? i = some p := by
  rw [payload?_eq_some_iff, payload?_eq_some_iff]
  refine exists_congr fun n => and_congr_left fun hn => h.get?_iff ?_
  rw [hn, hp]

theorem calls_iff (h : SameButWords a b) {p i : NodeIndex} : a.Calls p i ↔ b.Calls p i :=
  exists_congr fun call => and_congr_left fun _ => h.payload?_iff p (.call call) rfl

/-- Respelling keeps method calls, no part of which is a word. -/
theorem methodCall? (h : SameButWords a b) (i : NodeIndex) : a.methodCall? i = b.methodCall? i := by
  refine Option.ext fun m => ?_
  rw [methodCall?_eq_some_iff, methodCall?_eq_some_iff]
  refine exists_congr fun call => exists_congr fun access => ?_
  rw [h.payload?_iff i (.call call) rfl, h.payload?_iff call.callee (.propertyAccess access) rfl]

theorem functionArg? (h : SameButWords a b) (i : NodeIndex) : a.functionArg? i = b.functionArg? i := by
  refine Option.ext fun f => ?_
  rw [functionArg?_eq_some_iff, functionArg?_eq_some_iff]
  refine exists_congr fun function => exists_congr fun m => ?_
  rw [h.payload?_iff i (.functionExpression function) rfl, h.parentOf, h.methodCall?]

theorem deletion? (h : SameButWords a b) (i : NodeIndex) : a.deletion? i = b.deletion? i := by
  refine Option.ext fun d => ?_
  rw [deletion?_eq_some_iff, deletion?_eq_some_iff]
  refine exists_congr fun operand => exists_congr fun access => ?_
  rw [h.payload?_iff i (.delete operand) rfl, h.payload?_iff operand.expression (.propertyAccess access) rfl,
    h.payload?_iff operand.expression (.elementAccess access) rfl]

theorem simpleForOf? (h : SameButWords a b) (i : NodeIndex) : a.simpleForOf? i = b.simpleForOf? i := by
  refine Option.ext fun f => ?_
  rw [simpleForOf?_eq_some_iff, simpleForOf?_eq_some_iff]
  refine exists_congr fun forOf => exists_congr fun listNode => exists_congr fun list =>
    exists_congr fun declaration => exists_congr fun decl => exists_congr fun name => ?_
  have hlistNode : a.get? forOf.initializer = some listNode ∧ listNode.payload = .declarationList list ↔
      b.get? forOf.initializer = some listNode ∧ listNode.payload = .declarationList list :=
    and_congr_left fun hlist => h.get?_iff (by rw [hlist]; rfl)
  rw [h.payload?_iff i (.forOf forOf) rfl, ← and_assoc (a := a.get? _ = _), hlistNode, and_assoc,
    h.payload?_iff declaration (.declaration decl) rfl, h.payload?_iff decl.name (.identifier name) rfl]

theorem identifierForOf? (h : SameButWords a b) (i : NodeIndex) : a.identifierForOf? i = b.identifierForOf? i := by
  refine Option.ext fun f => ?_
  rw [identifierForOf?_eq_some_iff, identifierForOf?_eq_some_iff]
  refine exists_congr fun forOf => exists_congr fun identifier => ?_
  rw [h.payload?_iff i (.forOf forOf) rfl, h.payload?_iff forOf.initializer (.identifier identifier) rfl]

/-- **How keywords are spelled makes no difference to any shape of any node.** -/
theorem holds (h : SameButWords a b) (s : Shape) (i : NodeIndex) : s.holds a i = s.holds b i := by
  obtain hget | ⟨m, n, hm, hn, hword⟩ := h i
  · have hpayload := payload?_congr hget
    cases s with
    | methodCall => rw [Shape.holds, Shape.holds, h.methodCall?]
    | functionArgInMethodCall => rw [Shape.holds, Shape.holds, h.functionArg?]
    | deleteExpression => rw [Shape.holds, Shape.holds, h.deletion?]
    | forOfWithSimpleInitializer => rw [Shape.holds, Shape.holds, h.simpleForOf?]
    | forOfWithIdentifierInitializer => rw [Shape.holds, Shape.holds, h.identifierForOf?]
    | fieldElementAccess | fieldPropertyAccess =>
        exact holds_field_congr (by simp) (kindAt?_congr hpayload) (by rw [h.calls_iff, h.parentOf])
    | equalsExpression | compoundAssignmentExpression | literal | unaryExpression | thisKeyword
    | nullOrUndefinedOrNaN | numericCoercingOperator | integerCoercingOperator =>
        exact Shape.holds_congr_payload? trivial hpayload
  · obtain ⟨k, hkm, hkn⟩ := hword.keyword
    have hka := keywordAt?_eq_some_iff.mpr ⟨_, payload?_eq_some_iff.mpr ⟨m, hm, rfl⟩, hkm⟩
    have hkb := keywordAt?_eq_some_iff.mpr ⟨_, payload?_eq_some_iff.mpr ⟨n, hn, rfl⟩, hkn⟩
    rw [Bool.eq_iff_iff, Shape.holds_iff_of_keywordAt? hka, Shape.holds_iff_of_keywordAt? hkb]

/-- Respelling keeps all shapes. -/
theorem classify (h : SameButWords a b) (i : NodeIndex) : a.classify i = b.classify i :=
  List.filter_congr fun s _ => h.holds s i

end SameButWords

end Arena

/-! ## Respelling -/

/-- The node with its keyword as a token, if the keyword has one. -/
def Node.asToken (n : Node) : Node :=
  match n.payload with
  | .keyword d =>
    match d.keyword.token? with
    | some token => { n with payload := .token ⟨token⟩ }
    | none => n
  | _ => n

/-- The node with its token as a keyword, if the token stands for one. -/
def Node.asKeyword (n : Node) : Node :=
  match n.payload with
  | .token d =>
    match Keyword.ofToken? d.token with
    | some keyword => { n with payload := .keyword ⟨keyword⟩ }
    | none => n
  | _ => n

/-- The arena with the nodes at some places replaced. -/
def Arena.replace (a : Arena) (places : List Nat) (f : Node → Node) : Arena where
  nodes := a.nodes.mapIdx fun k n => if k ∈ places then f n else n

/-- A keyword with a token and this token are the same word. -/
theorem Node.sameWord_asToken {n : Node} {k : Keyword} (h : n.payload = .keyword ⟨k⟩) (hk : k ≠ .nan) :
    n.SameWord n.asToken ∧ n.asToken.kind = .token := by
  obtain ⟨t, ht⟩ : ∃ t, k.token? = some t := by
    cases k with
    | nan => exact absurd rfl hk
    | _ => exact ⟨_, rfl⟩
  have htoken : n.asToken = { n with payload := .token ⟨t⟩ } := by
    simp only [asToken, h, ht]
  rw [htoken]
  exact ⟨⟨rfl, rfl, rfl, rfl, k, by rw [h]; rfl, Payload.keyword?_token ht⟩, rfl⟩

/-- The token of a keyword and this keyword are the same word. -/
theorem Node.sameWord_asKeyword {n : Node} {t : Token} {k : Keyword} (h : n.payload = .token ⟨t⟩)
    (hk : Keyword.ofToken? t = some k) : n.SameWord n.asKeyword ∧ n.asKeyword.kind = .keyword := by
  have hkeyword : n.asKeyword = { n with payload := .keyword ⟨k⟩ } := by
    simp only [asKeyword, h, hk]
  rw [hkeyword]
  exact ⟨⟨rfl, rfl, rfl, rfl, k, by rw [h]; exact hk, rfl⟩, rfl⟩

namespace Arena

theorem get?_replace (a : Arena) (places : List Nat) (f : Node → Node) (i : NodeIndex) :
    (a.replace places f).get? i = (a.get? i).map fun n => if i.toNat ∈ places then f n else n := by
  unfold get? replace
  split
  · rfl
  · exact Array.getElem?_mapIdx

theorem indices_replace (a : Arena) (places : List Nat) (f : Node → Node) :
    (a.replace places f).indices = a.indices := by
  have hsize : (a.replace places f).size = a.size := Array.size_mapIdx
  unfold indices
  rw [hsize]

end Arena

/-! ## Reports -/

/-- The entry with another kind, if it is for a node at one of some places. -/
def Report.Entry.withKind (places : List Nat) (kind : Kind) (e : Report.Entry) : Report.Entry :=
  if e.index.toNat ∈ places then { e with kind } else e

/-- The report with another kind shown for the nodes at some places. -/
def Report.withKind (places : List Nat) (kind : Kind) (r : Report) : Report :=
  { r with nodes := r.nodes.map (Entry.withKind places kind) }

namespace Report

open Load (Malformed)

theorem Entry.shapes_withKind (places : List Nat) (kind : Kind) (e : Entry) :
    (e.withKind places kind).shapes = e.shapes := by
  unfold withKind
  split <;> rfl

section

variable {a : Arena} {places : List Nat} {f : Node → Node} {kind : Kind}
  (hf : ∀ k ∈ places, ∀ n, a.nodes[k]? = some n → n.SameWord (f n) ∧ (f n).kind = kind)
include hf

theorem sameButWords_replace : a.SameButWords (a.replace places f) := by
  intro i
  rw [Arena.get?_replace]
  cases hn : a.get? i with
  | none => exact .inl rfl
  | some n =>
      rw [Option.map_some]
      by_cases hi : i.toNat ∈ places
      · rw [if_pos hi]
        exact .inr ⟨n, f n, rfl, rfl, (hf _ hi n (Arena.get?_eq_some_iff.mp hn).2).1⟩
      · rw [if_neg hi]
        exact .inl rfl

/-- The entry of a respelled node differs by its kind alone. -/
theorem entryAt?_replace (i : NodeIndex) :
    entryAt? (a.replace places f) i = (entryAt? a i).map (Entry.withKind places kind) := by
  unfold entryAt?
  rw [Arena.get?_replace, ← (sameButWords_replace hf).classify]
  rw [Option.map_map, Option.map_map]
  refine Option.map_congr fun n hn => ?_
  have hplace : i.val.toNat ∈ places ↔ i.toNat ∈ places := Iff.rfl
  by_cases hi : i.toNat ∈ places
  · obtain ⟨hword, hkind⟩ := hf _ hi n (Arena.get?_eq_some_iff.mp hn).2
    simp only [Function.comp_apply, Entry.withKind, hplace, if_pos hi, hkind, hword.pos, hword.stop]
  · simp only [Function.comp_apply, Entry.withKind, hplace, if_neg hi]

/-- **A report on a respelled tree differs by the kinds alone.** -/
theorem build_replace (malformed : List Malformed) (o : Options) :
    build (a.replace places f) malformed o = (build a malformed o).withKind places kind := by
  have hentries : allEntries (a.replace places f) malformed =
      (allEntries a malformed).map (Entry.withKind places kind) := by
    unfold allEntries
    rw [Arena.indices_replace, List.map_filterMap]
    exact congrArg (List.filterMap · _) (funext (entryAt?_replace hf))
  have htally : ∀ s, tally (allEntries (a.replace places f) malformed) s = tally (allEntries a malformed) s := by
    intro s
    unfold tally
    rw [hentries, List.countP_map]
    simp only [Function.comp_def, Entry.shapes_withKind]
  have hnodes : (allEntries (a.replace places f) malformed).filter (fun e => o.keeps e.shapes) =
      ((allEntries a malformed).filter fun e => o.keeps e.shapes).map (Entry.withKind places kind) := by
    rw [hentries, List.filter_map]
    simp only [Function.comp_def, Entry.shapes_withKind]
  rw [build_eq, build_eq]
  unfold withKind summarise
  simp only [hnodes, htally]

end

/-- **Keywords and their tokens are interchangeable.** In every arena, let some nodes that are keywords with a
    token be replaced by that token, or some that are tokens of a keyword by that keyword, each under its
    header. Then every position has the same shapes, and every report says the same, but for the kinds that it
    shows for the nodes that were replaced. -/
theorem build_respelled (a : Arena) (places : List Nat) :
    ((∀ k ∈ places, ∃ n keyword, a.nodes[k]? = some n ∧ n.payload = .keyword ⟨keyword⟩ ∧ keyword ≠ .nan) →
      (∀ i, (a.replace places Node.asToken).classify i = a.classify i) ∧
        ∀ malformed o,
          build (a.replace places Node.asToken) malformed o = (build a malformed o).withKind places .token) ∧
      ((∀ k ∈ places, ∃ n token keyword, a.nodes[k]? = some n ∧ n.payload = .token ⟨token⟩ ∧
          Keyword.ofToken? token = some keyword) →
        (∀ i, (a.replace places Node.asKeyword).classify i = a.classify i) ∧
          ∀ malformed o,
            build (a.replace places Node.asKeyword) malformed o = (build a malformed o).withKind places .keyword) := by
  constructor
  · intro hplaces
    have hf : ∀ k ∈ places, ∀ n, a.nodes[k]? = some n → n.SameWord n.asToken ∧ n.asToken.kind = .token := by
      intro k hk n hn
      obtain ⟨m, keyword, hm, hpayload, hne⟩ := hplaces k hk
      obtain rfl := Option.some.inj (hm.symm.trans hn)
      exact Node.sameWord_asToken hpayload hne
    exact ⟨fun i => ((sameButWords_replace hf).classify i).symm, build_replace hf⟩
  · intro hplaces
    have hf : ∀ k ∈ places, ∀ n, a.nodes[k]? = some n → n.SameWord n.asKeyword ∧ n.asKeyword.kind = .keyword := by
      intro k hk n hn
      obtain ⟨m, token, keyword, hm, hpayload, hkeyword⟩ := hplaces k hk
      obtain rfl := Option.some.inj (hm.symm.trans hn)
      exact Node.sameWord_asKeyword hpayload hkeyword
    exact ⟨fun i => ((sameButWords_replace hf).classify i).symm, build_replace hf⟩

/-- `this.f(null)`, its words as keywords or as tokens. -/
def thisCall (this null : Payload) : Arena where
  nodes := #[⟨0, 0, 4, ⟨2⟩, this⟩, ⟨0, 5, 6, ⟨2⟩, .identifier ⟨"f"⟩⟩,
    ⟨0, 0, 6, ⟨4⟩, .propertyAccess ⟨⟨0⟩, ⟨1⟩, false⟩⟩, ⟨0, 7, 11, ⟨4⟩, null⟩,
    ⟨0, 0, 12, .absent, .call ⟨⟨2⟩, .ofNodes [⟨3⟩]⟩⟩]

/-- In `this.f(null)` both words may be tokens, and tokens may be words; the call stays a method call. -/
theorem build_respelled_thisCall :
    (thisCall (.keyword ⟨.this⟩) (.keyword ⟨.null⟩)).replace [0, 3] Node.asToken =
        thisCall (.token ⟨.thisKeyword⟩) (.token ⟨.nullKeyword⟩) ∧
      (build (thisCall (.token ⟨.thisKeyword⟩) (.token ⟨.nullKeyword⟩)) [] {}).nodes =
        [⟨0, .token, 0, 4, [.thisKeyword]⟩, ⟨3, .token, 7, 11, [.nullOrUndefinedOrNaN]⟩,
          ⟨4, .call, 0, 12, [.methodCall]⟩] ∧
      (build (thisCall (.keyword ⟨.this⟩) (.token ⟨.nullKeyword⟩)) [] {}).summary =
        [(.methodCall, 1), (.thisKeyword, 1), (.nullOrUndefinedOrNaN, 1)] := by
  have hkeywords : ∀ k ∈ [0, 3], ∃ n keyword, (thisCall (.keyword ⟨.this⟩) (.keyword ⟨.null⟩)).nodes[k]? = some n ∧
      n.payload = .keyword ⟨keyword⟩ ∧ keyword ≠ .nan := by
    simp [thisCall]
  have htokens : ∀ k ∈ [0], ∃ n token keyword,
      (thisCall (.token ⟨.thisKeyword⟩) (.token ⟨.nullKeyword⟩)).nodes[k]? = some n ∧
        n.payload = .token ⟨token⟩ ∧ Keyword.ofToken? token = some keyword := by
    simp [thisCall, Keyword.ofToken?]
  obtain ⟨-, htoken⟩ := (build_respelled _ _).1 hkeywords
  obtain ⟨-, hkeyword⟩ := (build_respelled _ _).2 htokens
  refine ⟨rfl, ?_, ?_⟩
  · exact congrArg Report.nodes (htoken [] {})
  · exact congrArg Report.summary (hkeyword [] {})

end Report

end SyntaxShapes
