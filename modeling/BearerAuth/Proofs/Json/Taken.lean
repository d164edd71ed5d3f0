import BearerAuth.Proofs.Json.RoundTrip
import BearerAuth.Text.Blank

/-!
# What is taken for a tree

The machine that puts tokens together takes the tokens of a tree and no others. What it has taken
can be read off its phase at any time, and at the end it is the tokens of the result. So a text
that is read as an object has a brace before everything else that is not blank.
-/
namespace BearerAuth.Json

namespace Written

/-- The tokens of items that are followed by another one. -/
def itemsTaken (items : List Written) : List Token :=
  items.flatMap fun item => item.tokens ++ [.comma]

/-- The tokens of members that are followed by another one. -/
def membersTaken (members : List (StringLiteral × Written)) : List Token :=
  members.flatMap fun member => .string member.1 :: .colon :: member.2.tokens ++ [.comma]

theorem itemTokens_append_singleton (items : List Written) (last : Written) :
    itemTokens (items ++ [last]) = itemsTaken items ++ (last.tokens ++ [.closeArray]) := by
  induction items with
  | nil => rfl
  | cons item items ih =>
    have hmore : moreItemTokens (items ++ [last]) = .comma :: itemTokens (items ++ [last]) := by
      cases items <;> rfl
    rw [List.cons_append, itemTokens, hmore, ih]
    simp [itemsTaken]

theorem memberTokens_append_singleton (members : List (StringLiteral × Written))
    (last : StringLiteral × Written) : memberTokens (members ++ [last]) =
      membersTaken members ++ (.string last.1 :: .colon :: last.2.tokens ++ [.closeObject]) := by
  induction members with
  | nil => rfl
  | cons member members ih =>
    have hmore : moreMemberTokens (members ++ [last]) =
        .comma :: memberTokens (members ++ [last]) := by
      cases members <;> rfl
    rw [List.cons_append, memberTokens, hmore, ih]
    simp [membersTaken]

/-- The tokens from the one that opens a frame to where it waits for a value. -/
def Frame.taken : Frame → List Token
  | items done => .openArray :: itemsTaken done.reverse
  | members done key => .openObject :: membersTaken done.reverse ++ [.string key, .colon]

/-- The frames are opened from the outermost one inwards. -/
def framesTaken (frames : List Frame) : List Token := frames.reverse.flatMap Frame.taken

theorem framesTaken_cons (frame : Frame) (frames : List Frame) :
    framesTaken (frame :: frames) = framesTaken frames ++ frame.taken := by
  simp [framesTaken]

/-- All tokens that lead the machine to a phase. -/
def Phase.taken : Phase → List Token
  | value frames => framesTaken frames
  | firstItem frames => framesTaken frames ++ [.openArray]
  | firstKey frames => framesTaken frames ++ [.openObject]
  | key done frames => framesTaken frames ++ .openObject :: membersTaken done.reverse
  | colon done name frames =>
    framesTaken frames ++ .openObject :: membersTaken done.reverse ++ [.string name]
  | after item frames => framesTaken frames ++ item.tokens

theorem taken_begin? {token : Token} {frames : List Frame} {next : Phase}
    (h : begin? token frames = some next) : next.taken = framesTaken frames ++ [token] := by
  cases token <;> cases h <;> rfl

/-- Every step takes one token. -/
theorem taken_step {phase next : Phase} {token : Token} (h : step phase token = some next) :
    next.taken = phase.taken ++ [token] := by
  -- The cases are the lines of `step`, in their order.
  unfold step at h
  split at h
  · cases h
    simp [Phase.taken, tokens, itemTokens]
  · rw [taken_begin? h]
    simp [Phase.taken, framesTaken_cons, Frame.taken, itemsTaken]
  · cases h
    simp [Phase.taken, tokens, memberTokens]
  · cases h
    simp [Phase.taken, membersTaken]
  · cases h
    rfl
  · cases h
    simp [Phase.taken, framesTaken_cons, Frame.taken]
  · exact taken_begin? h
  · cases h
    simp [Phase.taken, framesTaken_cons, Frame.taken, itemsTaken]
  · cases h
    simp [Phase.taken, framesTaken_cons, Frame.taken, tokens, itemTokens_append_singleton]
  · cases h
    simp [Phase.taken, framesTaken_cons, Frame.taken, membersTaken]
  · cases h
    simp [Phase.taken, framesTaken_cons, Frame.taken, tokens, memberTokens_append_singleton]
  · cases h

theorem taken_run {phase final : Phase} {more : List Token} (h : run phase more = some final) :
    final.taken = phase.taken ++ more := by
  induction more generalizing phase with
  | nil =>
    cases h
    exact (List.append_nil _).symm
  | cons token more ih =>
    obtain ⟨next, hstep, hrest⟩ := Option.bind_eq_some_iff.mp h
    rw [ih hrest, taken_step hstep, List.append_assoc, List.singleton_append]

/-- A tree is put together from its own tokens and from nothing else. -/
theorem ofTokens?_eq_some_iff {more : List Token} {tree : Written} :
    ofTokens? more = some tree ↔ more = tree.tokens := by
  constructor
  · intro h
    unfold ofTokens? at h
    split at h
    · next value hrun =>
      cases h
      exact (taken_run hrun).symm
    · cases h
  · rintro rfl
    exact ofTokens?_tokens tree

end Written

namespace Token

variable {cs after : List Char} {token : Token} {tokens : List Token}

/-- The first token stands behind nothing but white space. -/
theorem exists_read_of_readAll (h : readAll cs = some (token :: tokens)) :
    ∃ blanks rest after, cs = blanks ++ rest ∧ (∀ c ∈ blanks, c.isWhitespace = true) ∧
      read rest = some (token, after) := by
  fun_induction readAll cs with
  | case1 => cases h
  | case2 c rest hspace ih =>
    obtain ⟨blanks, rest, after, rfl, hblanks, hread⟩ := ih h
    have hwhite : c.isWhitespace = true := by
      simp only [isSpace, decide_eq_true_eq] at hspace
      rcases hspace with rfl | rfl | rfl | rfl <;> rfl
    exact ⟨c :: blanks, rest, after, rfl, List.forall_mem_cons.mpr ⟨hwhite, hblanks⟩, hread⟩
  | case3 => cases h
  | case4 c rest _ first after hread ih =>
    obtain ⟨others, -, hcons⟩ := Option.map_eq_some_iff.mp h
    cases hcons
    exact ⟨[], c :: rest, after, rfl, List.forall_mem_nil _, hread⟩

theorem head?_of_read_openObject (h : read cs = some (openObject, after)) :
    cs.head? = some '\x7b' := by
  unfold read at h
  split at h <;> simp_all

end Token

/-- A text that is read as an object begins with a brace, after blanks. -/
theorem Written.find?_of_read?_object {text : String} {members : List (StringLiteral × Written)}
    (h : read? text = some (object members)) :
    text.toList.find? (fun c => !Text.isBlank c) = some '\x7b' := by
  obtain ⟨more, hmore, htree⟩ := Option.bind_eq_some_iff.mp h
  rw [ofTokens?_eq_some_iff.mp htree, tokens] at hmore
  obtain ⟨blanks, rest, after, heq, hblanks, hread⟩ := Token.exists_read_of_readAll hmore
  obtain ⟨tail, rfl⟩ := List.head?_eq_some_iff.mp (Token.head?_of_read_openObject hread)
  have hskipped : blanks.find? (fun c => !Text.isBlank c) = none :=
    List.find?_eq_none.mpr fun c hc => by simp [Text.isBlank_of_isWhitespace c (hblanks c hc)]
  rw [heq, List.find?_append, hskipped]
  rfl

end BearerAuth.Json
