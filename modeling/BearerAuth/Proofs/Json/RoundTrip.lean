import BearerAuth.Proofs.Json.Order
import BearerAuth.Proofs.Json.Printed

/-!
# Printed values

A value without doubles is printed so that it can be read back: the text is cut into the tokens of
one tree, the tokens are put together to this tree, and the tree means the value. The members of
an object come back in the order of their keys.
-/
namespace BearerAuth.Json

namespace Value

mutual
/-- How many arrays and objects lie inside one another. -/
def depth : Value → Nat
  | array items => depthItems items + 1
  | object members => depthMembers members + 1
  | _ => 0

def depthItems : List Value → Nat
  | [] => 0
  | item :: rest => max item.depth (depthItems rest)

def depthMembers : List (String × Value) → Nat
  | [] => 0
  | (_, value) :: rest => max value.depth (depthMembers rest)
end

mutual
/-- All numbers in the value are whole numbers of sixty-four bits. -/
def Integral : Value → Prop
  | number (.double _) => False
  | array items => IntegralItems items
  | object members => IntegralMembers members
  | _ => True

def IntegralItems : List Value → Prop
  | [] => True
  | item :: rest => item.Integral ∧ IntegralItems rest

def IntegralMembers : List (String × Value) → Prop
  | [] => True
  | (_, value) :: rest => value.Integral ∧ IntegralMembers rest
end

theorem integralMembers_iff {members : Members} :
    IntegralMembers members ↔ ∀ member ∈ members, member.2.Integral := by
  induction members with
  | nil => exact iff_of_true trivial nofun
  | cons member rest ih => rw [IntegralMembers, ih, List.forall_mem_cons]

/-- A value that can be printed and read back, as far as its depth allows. -/
structure Plain (value : Value) : Prop where
  ordered : value.Ordered
  integral : value.Integral

theorem plain_string (text : String) : Plain (.string text) := ⟨trivial, trivial⟩

theorem plain_integer {value : Int} (fits : FitsWord value) :
    Plain (.number (.integer value fits)) := ⟨trivial, trivial⟩

theorem plain_array {items : List Value} (h : ∀ item ∈ items, item.Plain) :
    Plain (.array items) := by
  induction items with
  | nil => exact ⟨trivial, trivial⟩
  | cons item rest ih =>
    obtain ⟨hitem, hrest⟩ := List.forall_mem_cons.mp h
    exact ⟨⟨hitem.ordered, (ih hrest).ordered⟩, ⟨hitem.integral, (ih hrest).integral⟩⟩

theorem Plain.insert {members : Members} (h : Plain (.object members)) (key : String)
    {value : Value} (hvalue : value.Plain) : Plain (.object (members.insert key value)) where
  ordered := ordered_insert h.ordered key hvalue.ordered
  integral := integralMembers_iff.mpr fun member hmem => by
    rcases Members.mem_of_mem_insert hmem with rfl | hmem
    · exact hvalue.integral
    · exact integralMembers_iff.mp h.integral member hmem

theorem Plain.erase {members : Members} (h : Plain (.object members)) (key : String) :
    Plain (.object (members.erase key)) where
  ordered := ordered_erase h.ordered key
  integral := integralMembers_iff.mpr fun member hmem =>
    integralMembers_iff.mp h.integral member (List.mem_of_mem_filter hmem)

theorem plain_ofPairs {pairs : List (String × Value)} (h : ∀ pair ∈ pairs, pair.2.Plain) :
    Plain (.object (Members.ofPairs pairs)) :=
  Members.ofPairs_keeps (P := fun members => Plain (.object members))
    ⟨⟨.nil, trivial⟩, trivial⟩ fun _ key _ hpair hmembers => hmembers.insert key (h _ hpair)

end Value

namespace Written

mutual
/-- The tokens that a tree is written with. -/
def tokens : Written → List Token
  | null => [.null]
  | bool value => [.bool value]
  | number literal => [.number literal]
  | string literal => [.string literal]
  | array items => .openArray :: itemTokens items
  | object members => .openObject :: memberTokens members

def itemTokens : List Written → List Token
  | [] => [.closeArray]
  | item :: rest => item.tokens ++ moreItemTokens rest

def moreItemTokens : List Written → List Token
  | [] => [.closeArray]
  | item :: rest => .comma :: item.tokens ++ moreItemTokens rest

def memberTokens : List (StringLiteral × Written) → List Token
  | [] => [.closeObject]
  | (key, value) :: rest => .string key :: .colon :: value.tokens ++ moreMemberTokens rest

def moreMemberTokens : List (StringLiteral × Written) → List Token
  | [] => [.closeObject]
  | (key, value) :: rest =>
    .comma :: .string key :: .colon :: value.tokens ++ moreMemberTokens rest
end

theorem run_cons (phase : Phase) (token : Token) (tokens : List Token) :
    run phase (token :: tokens) = (step phase token).bind (run · tokens) := rfl

/-- The first item of an array begins as any value does. -/
theorem run_firstItem (tree : Written) (frames : List Frame) (more : List Token) :
    run (.firstItem frames) (tree.tokens ++ more) =
      run (.value (.items [] :: frames)) (tree.tokens ++ more) := by
  cases tree <;> rfl

mutual
/-- The tokens of a tree bring the machine from waiting for a value to having it. -/
theorem run_tokens : ∀ (tree : Written) (frames : List Frame) (more : List Token),
    run (.value frames) (tree.tokens ++ more) = run (.after tree frames) more
  | .null, frames, more => rfl
  | .bool _, frames, more => rfl
  | .number _, frames, more => rfl
  | .string _, frames, more => rfl
  | .array [], frames, more => rfl
  | .array (item :: rest), frames, more => by
    have hopen : run (.value frames) ((array (item :: rest)).tokens ++ more) =
        run (.firstItem frames) (item.tokens ++ (moreItemTokens rest ++ more)) := by
      rw [tokens, itemTokens, List.cons_append, List.append_assoc]
      rfl
    rw [hopen, run_firstItem, run_tokens item, run_moreItemTokens rest]
    rfl
  | .object [], frames, more => rfl
  | .object ((key, value) :: rest), frames, more => by
    have hopen : run (.value frames) ((object ((key, value) :: rest)).tokens ++ more) =
        run (.value (.members [] key :: frames))
          (value.tokens ++ (moreMemberTokens rest ++ more)) := by
      rw [tokens, memberTokens, List.cons_append, List.cons_append, List.cons_append,
        List.append_assoc]
      rfl
    rw [hopen, run_tokens value, run_moreMemberTokens rest]
    rfl

theorem run_moreItemTokens : ∀ (rest : List Written) (item : Written) (done : List Written)
    (frames : List Frame) (more : List Token),
    run (.after item (.items done :: frames)) (moreItemTokens rest ++ more) =
      run (.after (array ((item :: done).reverse ++ rest)) frames) more
  | [], item, done, frames, more => by
    rw [List.append_nil]
    rfl
  | next :: rest, item, done, frames, more => by
    have hcomma : run (.after item (.items done :: frames)) (moreItemTokens (next :: rest) ++ more) =
        run (.value (.items (item :: done) :: frames))
          (next.tokens ++ (moreItemTokens rest ++ more)) := by
      rw [moreItemTokens, List.cons_append, List.cons_append, List.append_assoc]
      rfl
    rw [hcomma, run_tokens next, run_moreItemTokens rest]
    simp only [List.reverse_cons, List.append_assoc, List.cons_append, List.nil_append]

theorem run_moreMemberTokens : ∀ (rest : List (StringLiteral × Written)) (key : StringLiteral)
    (value : Written) (done : List (StringLiteral × Written)) (frames : List Frame)
    (more : List Token),
    run (.after value (.members done key :: frames)) (moreMemberTokens rest ++ more) =
      run (.after (object (((key, value) :: done).reverse ++ rest)) frames) more
  | [], key, value, done, frames, more => by
    rw [List.append_nil]
    rfl
  | (name, next) :: rest, key, value, done, frames, more => by
    have hcomma : run (.after value (.members done key :: frames))
        (moreMemberTokens ((name, next) :: rest) ++ more) =
        run (.value (.members ((key, value) :: done) name :: frames))
          (next.tokens ++ (moreMemberTokens rest ++ more)) := by
      rw [moreMemberTokens, List.cons_append, List.cons_append, List.cons_append,
        List.cons_append, List.append_assoc]
      rfl
    rw [hcomma, run_tokens next, run_moreMemberTokens rest]
    simp only [List.reverse_cons, List.append_assoc, List.cons_append, List.nil_append]
end

/-- Every tree is read back from its tokens. -/
theorem ofTokens?_tokens (tree : Written) : ofTokens? tree.tokens = some tree := by
  have hrun := run_tokens tree [] []
  rw [List.append_nil] at hrun
  rw [ofTokens?, hrun]
  rfl

end Written

namespace Token

/-- No token begins with a blank. -/
theorem not_isSpace_of_read {c : Char} {rest : List Char} {result : Token × List Char}
    (h : read (c :: rest) = some result) : isSpace c = false := by
  rw [Bool.eq_false_iff]
  intro hspace
  simp only [isSpace, decide_eq_true_eq] at hspace
  rcases hspace with rfl | rfl | rfl | rfl <;> cases h

/-- The first token of a text, and then all others. -/
theorem readAll_of_read {cs after : List Char} {token : Token}
    (h : read cs = some (token, after)) : readAll cs = (readAll after).map (token :: ·) := by
  cases cs with
  | nil => cases h
  | cons c rest =>
    rw [readAll, if_neg (by simp [not_isSpace_of_read h])]
    split
    · next hnone => cases hnone.symm.trans h
    · next token' after' hsome =>
      cases hsome.symm.trans h
      rfl

theorem stops_of_mem {c : Char} (hc : c ∈ [',', ']', '\x7d']) (rest : List Char) :
    Stops (c :: rest) := by
  intro c' hc'
  cases hc'
  simp only [List.mem_cons, List.not_mem_nil, or_false] at hc
  rcases hc with rfl | rfl | rfl <;> decide

end Token

/-- The tree is how the printed value is read. -/
structure Reads (value : Value) (tree : Written) : Prop where
  tokens : ∀ rest, Token.Stops rest →
    Token.readAll (value.printChars ++ rest) = (Token.readAll rest).map (tree.tokens ++ ·)
  depth : tree.depth = value.depth
  meaning : value.Ordered → tree.meaning? = some value

/-- So is a member of an object, with its name. -/
def ReadsMember (member : String × Value) (tree : StringLiteral × Written) : Prop :=
  tree.1 = member.1.toList.map piece ∧ Reads member.2 tree.2

/-- A value that is printed as one token. -/
theorem reads_of_token {value : Value} {tree : Written} {token : Token}
    (hread : ∀ rest, Token.Stops rest →
      Token.read (value.printChars ++ rest) = some (token, rest))
    (htokens : tree.tokens = [token]) (hdepth : tree.depth = value.depth)
    (hmeaning : tree.meaning? = some value) : Reads value tree := by
  refine ⟨fun rest hstops => ?_, hdepth, fun _ => hmeaning⟩
  rw [Token.readAll_of_read (hread rest hstops), htokens]
  rfl

theorem reads_null : Reads .null .null :=
  reads_of_token (fun _ _ => rfl) rfl rfl rfl

theorem reads_bool (value : Bool) : Reads (.bool value) (.bool value) := by
  cases value with
  | true => exact reads_of_token (fun _ _ => rfl) rfl rfl rfl
  | false => exact reads_of_token (fun _ _ => rfl) rfl rfl rfl

theorem reads_integer {value : Int} (fits : FitsWord value) :
    Reads (.number (.integer value fits)) (.number (.ofInt value)) := by
  refine reads_of_token (fun _ => Token.read_printInteger fits) rfl rfl ?_
  rw [Written.meaning?, NumberLiteral.number?_ofInt fits]
  rfl

theorem exists_reads_number {value : Number} (h : (Value.number value).Integral) :
    ∃ tree, Reads (.number value) tree := by
  cases value with
  | integer value fits => exact ⟨_, reads_integer fits⟩
  | double value => exact False.elim h

theorem reads_string (text : String) : Reads (.string text) (.string (text.toList.map piece)) := by
  refine reads_of_token (fun rest _ => Token.read_printString text rest) rfl rfl ?_
  rw [Written.meaning?, StringLiteral.text?_map_piece]
  rfl

section Items

variable {items : List Value} {trees : List Written}

theorem stops_printMoreItems (items : List Value) (rest : List Char) :
    Token.Stops (Value.printMoreItems items ++ rest) := by
  cases items with
  | nil => exact Token.stops_of_mem (by simp) rest
  | cons item items => exact Token.stops_of_mem (by simp) _

theorem readAll_printMoreItems (h : List.Forall₂ Reads items trees) (rest : List Char) :
    Token.readAll (Value.printMoreItems items ++ rest) =
      (Token.readAll rest).map (Written.moreItemTokens trees ++ ·) := by
  induction h with
  | nil => exact Token.readAll_of_read rfl
  | @cons item tree items trees hitem hitems ih =>
    have hcomma : Token.read (Value.printMoreItems (item :: items) ++ rest) =
        some (.comma, item.printChars ++ (Value.printMoreItems items ++ rest)) := by
      rw [Value.printMoreItems, List.cons_append, List.cons_append, List.append_assoc]
      rfl
    rw [Token.readAll_of_read hcomma, hitem.tokens _ (stops_printMoreItems items rest), ih,
      Option.map_map, Option.map_map]
    simp [Function.comp_def, Written.moreItemTokens]

theorem readAll_printItems (h : List.Forall₂ Reads items trees) (rest : List Char) :
    Token.readAll (Value.printItems items ++ rest) =
      (Token.readAll rest).map (Written.itemTokens trees ++ ·) := by
  cases h with
  | nil => exact Token.readAll_of_read rfl
  | @cons item tree items trees hitem hitems =>
    rw [Value.printItems, List.append_assoc, hitem.tokens _ (stops_printMoreItems items rest),
      readAll_printMoreItems hitems, Option.map_map]
    simp [Function.comp_def, Written.itemTokens]

theorem depthItems_eq (h : List.Forall₂ Reads items trees) :
    Written.depthItems trees = Value.depthItems items := by
  induction h with
  | nil => rfl
  | cons hitem _ ih => rw [Written.depthItems, Value.depthItems, hitem.depth, ih]

theorem meanings?_eq (h : List.Forall₂ Reads items trees) (hordered : Value.OrderedItems items) :
    Written.meanings? trees = some items := by
  induction h with
  | nil => rfl
  | cons hitem _ ih => rw [Written.meanings?, hitem.meaning hordered.1, ih hordered.2]

theorem reads_array (h : List.Forall₂ Reads items trees) :
    Reads (.array items) (.array trees) where
  tokens rest _ := by
    have hopen : Token.read (Value.printChars (.array items) ++ rest) =
        some (.openArray, Value.printItems items ++ rest) := by
      rw [Value.printChars, List.cons_append]
      rfl
    rw [Token.readAll_of_read hopen, readAll_printItems h, Option.map_map]
    simp [Function.comp_def, Written.tokens]
  depth := by rw [Written.depth, Value.depth, depthItems_eq h]
  meaning hordered := by rw [Written.meaning?, meanings?_eq h hordered]; rfl

end Items

section Members

variable {members : Members} {trees : List (StringLiteral × Written)}

theorem stops_printMoreMembers (members : Members) (rest : List Char) :
    Token.Stops (Value.printMoreMembers members ++ rest) := by
  cases members with
  | nil => exact Token.stops_of_mem (by simp) rest
  | cons member members => exact Token.stops_of_mem (by simp) _

/-- A name, the colon and the value. -/
theorem readAll_printMember {member : String × Value} {tree : StringLiteral × Written}
    (h : ReadsMember member tree) {rest : List Char} (hstops : Token.Stops rest) :
    Token.readAll (printString member.1 ++ ':' :: (member.2.printChars ++ rest)) =
      (Token.readAll rest).map fun tokens =>
        .string tree.1 :: .colon :: (tree.2.tokens ++ tokens) := by
  have hcolon : Token.read (':' :: (member.2.printChars ++ rest)) =
      some (.colon, member.2.printChars ++ rest) := rfl
  rw [Token.readAll_of_read (Token.read_printString member.1 _), Token.readAll_of_read hcolon,
    h.2.tokens rest hstops, ← h.1, Option.map_map, Option.map_map]
  rfl

theorem readAll_printMoreMembers (h : List.Forall₂ ReadsMember members trees)
    (rest : List Char) :
    Token.readAll (Value.printMoreMembers members ++ rest) =
      (Token.readAll rest).map (Written.moreMemberTokens trees ++ ·) := by
  induction h with
  | nil => exact Token.readAll_of_read rfl
  | @cons member tree members trees hmember hmembers ih =>
    have hcomma : Token.read (Value.printMoreMembers (member :: members) ++ rest) =
        some (.comma, printString member.1 ++
          ':' :: (member.2.printChars ++ (Value.printMoreMembers members ++ rest))) := by
      simp only [Value.printMoreMembers, List.cons_append, List.append_assoc]
      rfl
    rw [Token.readAll_of_read hcomma,
      readAll_printMember hmember (stops_printMoreMembers members rest), ih, Option.map_map,
      Option.map_map]
    simp [Function.comp_def, Written.moreMemberTokens]

theorem readAll_printMembers (h : List.Forall₂ ReadsMember members trees) (rest : List Char) :
    Token.readAll (Value.printMembers members ++ rest) =
      (Token.readAll rest).map (Written.memberTokens trees ++ ·) := by
  cases h with
  | nil => exact Token.readAll_of_read rfl
  | @cons member tree members trees hmember hmembers =>
    have hfirst : Value.printMembers (member :: members) ++ rest = printString member.1 ++
        ':' :: (member.2.printChars ++ (Value.printMoreMembers members ++ rest)) := by
      simp only [Value.printMembers, List.cons_append, List.append_assoc]
    rw [hfirst, readAll_printMember hmember (stops_printMoreMembers members rest),
      readAll_printMoreMembers hmembers, Option.map_map]
    simp [Function.comp_def, Written.memberTokens]

theorem depthMembers_eq (h : List.Forall₂ ReadsMember members trees) :
    Written.depthMembers trees = Value.depthMembers members := by
  induction h with
  | nil => rfl
  | cons hmember _ ih => rw [Written.depthMembers, Value.depthMembers, hmember.2.depth, ih]

theorem memberMeanings?_eq (h : List.Forall₂ ReadsMember members trees)
    (hordered : Value.OrderedMembers members) :
    Written.memberMeanings? trees = some members := by
  induction h with
  | nil => rfl
  | cons hmember _ ih =>
    rw [Written.memberMeanings?, hmember.1, StringLiteral.text?_map_piece,
      hmember.2.meaning hordered.1, ih hordered.2]

theorem readAll_printObject (h : List.Forall₂ ReadsMember members trees) (rest : List Char) :
    Token.readAll ((Value.object members).printChars ++ rest) =
      (Token.readAll rest).map ((Written.object trees).tokens ++ ·) := by
  have hopen : Token.read ((Value.object members).printChars ++ rest) =
      some (.openObject, Value.printMembers members ++ rest) := by
    rw [Value.printChars, List.cons_append]
    rfl
  rw [Token.readAll_of_read hopen, readAll_printMembers h, Option.map_map]
  simp [Function.comp_def, Written.tokens]

theorem reads_object (h : List.Forall₂ ReadsMember members trees) :
    Reads (.object members) (.object trees) where
  tokens rest _ := readAll_printObject h rest
  depth := by rw [Written.depth, Value.depth, depthMembers_eq h]
  meaning hordered := by
    rw [Written.meaning?, memberMeanings?_eq h hordered.2, Option.map_some,
      Members.ofPairs_of_sorted hordered.1]

end Members

mutual
/-- A value without doubles can be read after it has been printed. -/
theorem exists_reads : ∀ value : Value, value.Integral → ∃ tree, Reads value tree
  | .null, _ => ⟨.null, reads_null⟩
  | .bool value, _ => ⟨.bool value, reads_bool value⟩
  | .number value, h => exists_reads_number h
  | .string text, _ => ⟨_, reads_string text⟩
  | .array items, h => by
    obtain ⟨trees, htrees⟩ := exists_reads_items items h
    exact ⟨.array trees, reads_array htrees⟩
  | .object members, h => by
    obtain ⟨trees, htrees⟩ := exists_reads_members members h
    exact ⟨.object trees, reads_object htrees⟩

theorem exists_reads_items : ∀ items : List Value, Value.IntegralItems items →
    ∃ trees, List.Forall₂ Reads items trees
  | [], _ => ⟨[], .nil⟩
  | item :: rest, h => by
    obtain ⟨tree, htree⟩ := exists_reads item h.1
    obtain ⟨trees, htrees⟩ := exists_reads_items rest h.2
    exact ⟨tree :: trees, .cons htree htrees⟩

theorem exists_reads_members : ∀ members : Members, Value.IntegralMembers members →
    ∃ trees, List.Forall₂ ReadsMember members trees
  | [], _ => ⟨[], .nil⟩
  | (name, value) :: rest, h => by
    obtain ⟨tree, htree⟩ := exists_reads value h.1
    obtain ⟨trees, htrees⟩ := exists_reads_members rest h.2
    exact ⟨(name.toList.map piece, tree) :: trees, .cons ⟨rfl, htree⟩ htrees⟩
end

namespace Value

/-- Members in any order are read back in the order of their keys. -/
theorem ofBytes?_printObject {members : Members} (hintegral : IntegralMembers members)
    (hordered : OrderedMembers members) (hdepth : (object members).depth ≤ maxDepth) :
    ofBytes? (Bytes.ofText (object members).print) = some (.object (Members.ofPairs members)) := by
  obtain ⟨trees, htrees⟩ := exists_reads_members members hintegral
  have hread : Written.read? (object members).print = some (.object trees) := by
    have hall := readAll_printObject htrees []
    rw [List.append_nil] at hall
    rw [Written.read?, print, String.toList_ofList, hall, Token.readAll]
    simp [Written.ofTokens?_tokens]
  have htree : (Written.object trees).depth ≤ maxDepth := by
    rw [(reads_object htrees).depth]
    exact hdepth
  rw [ofBytes?, Bytes.text?_ofText, Option.bind_some, read?, hread, Option.bind_some, if_pos htree,
    Written.meaning?, memberMeanings?_eq htrees hordered]
  rfl

/-- What is printed is read back. -/
theorem ofBytes?_print {members : Members} (hplain : (object members).Plain)
    (hdepth : (object members).depth ≤ maxDepth) :
    ofBytes? (Bytes.ofText (object members).print) = some (.object members) := by
  rw [ofBytes?_printObject hplain.integral hplain.ordered.2 hdepth,
    Members.ofPairs_of_sorted hplain.ordered.1]

end Value
end BearerAuth.Json
