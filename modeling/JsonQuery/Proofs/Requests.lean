import JsonQuery.Proofs.Text.Cursor

/-!
# Requests

Whatever a cursor is asked, and in whatever order, it answers as the plain list of the characters
that remain would, and leaves what the list leaves. How many of them stand ahead already and how
many are still in the source never shows.
-/

namespace JsonQuery.Text

/-- What a cursor can be asked. -/
inductive Request
  | peek (distance : Nat)
  | next
  | skip (count : Nat)
  | matchText (text : List Char)
  | skipBlanks
  | isAtEnd
deriving DecidableEq, Repr

inductive Answer
  | char (c : Option Char)
  | truth (b : Bool)
  | done
deriving DecidableEq, Repr

namespace Cursor

def serve (c : Cursor) : Request → Answer × Cursor
  | .peek distance => (c.peek distance).map .char id
  | .next => c.next.map .char id
  | .skip count => (.done, c.skip count)
  | .matchText text => (c.matchText text).map .truth id
  | .skipBlanks => (.done, c.skipBlanks)
  | .isAtEnd => c.isAtEnd.map .truth id

/-- One request after another. -/
def serveAll (c : Cursor) : List Request → List Answer × Cursor
  | [] => ([], c)
  | request :: requests =>
    let (answer, c) := c.serve request
    let (answers, c) := c.serveAll requests
    (answer :: answers, c)

end Cursor

/-! ## What a list says -/

namespace Request

/-- The answer when these characters remain. -/
def answer (cs : List Char) : Request → Answer
  | .peek distance => .char cs[distance]?
  | .next => .char cs.head?
  | .skip _ => .done
  | .matchText text => .truth (text.isPrefixOf cs)
  | .skipBlanks => .done
  | .isAtEnd => .truth cs.isEmpty

/-- The characters that are consumed: of a text all or none, and never more than there are. -/
def taken (cs : List Char) : Request → List Char
  | .peek _ => []
  | .next => cs.take 1
  | .skip count => cs.take count
  | .matchText text => if text.isPrefixOf cs then text else []
  | .skipBlanks => cs.takeWhile isBlank
  | .isAtEnd => []

/-- The characters that remain then. -/
def left (cs : List Char) : Request → List Char
  | .peek _ => cs
  | .next => cs.drop 1
  | .skip count => cs.drop count
  | .matchText text => if text.isPrefixOf cs then cs.drop text.length else cs
  | .skipBlanks => dropBlanks cs
  | .isAtEnd => cs

/-- The answers to one request after another. -/
def answers (cs : List Char) : List Request → List Answer
  | [] => []
  | request :: requests => request.answer cs :: answers (request.left cs) requests

/-- What each of the requests consumes. -/
def pieces (cs : List Char) : List Request → List (List Char)
  | [] => []
  | request :: requests => request.taken cs :: pieces (request.left cs) requests

theorem taken_append_left (cs : List Char) (request : Request) :
    request.taken cs ++ request.left cs = cs := by
  cases request with
  | peek | isAtEnd => rfl
  | next => exact List.take_append_drop 1 cs
  | skip count => exact List.take_append_drop count cs
  | matchText text =>
    by_cases h : text.isPrefixOf cs = true
    · obtain ⟨rest, rfl⟩ := List.isPrefixOf_iff_prefix.1 h
      simp [taken, left]
    · simp [taken, left, h]
  | skipBlanks => exact List.takeWhile_append_dropWhile

/-- Nothing is lost, repeated or put elsewhere. -/
theorem flatten_pieces_append (cs : List Char) (requests : List Request) :
    (pieces cs requests).flatten ++ requests.foldl left cs = cs := by
  induction requests generalizing cs with
  | nil => rfl
  | cons request requests ih =>
    rw [pieces, List.flatten_cons, List.foldl_cons, List.append_assoc, ih, taken_append_left]

end Request

/-! ## What a cursor says -/

namespace Cursor

theorem serve_answer (c : Cursor) (request : Request) :
    (c.serve request).1 = request.answer c.remaining := by
  cases request with
  | peek distance => exact congrArg Answer.char (peek_eq c distance)
  | next => exact congrArg Answer.char (next_eq c)
  | skip | skipBlanks => rfl
  | matchText text => exact congrArg Answer.truth (matchText_eq c text)
  | isAtEnd => exact congrArg Answer.truth (isAtEnd_eq c)

theorem remaining_serve (c : Cursor) (request : Request) :
    (c.serve request).2.remaining = request.left c.remaining := by
  cases request with
  | peek distance => exact remaining_peek c distance
  | next => exact remaining_next c
  | skip count => exact remaining_skip c count
  | matchText text => exact remaining_matchText c text
  | skipBlanks => exact remaining_skipBlanks c
  | isAtEnd => exact remaining_peek c 0

theorem serveAll_answers (c : Cursor) (requests : List Request) :
    (c.serveAll requests).1 = Request.answers c.remaining requests := by
  induction requests generalizing c with
  | nil => rfl
  | cons request requests ih =>
    simp only [serveAll, Request.answers, serve_answer, ih, remaining_serve]

theorem remaining_serveAll (c : Cursor) (requests : List Request) :
    (c.serveAll requests).2.remaining = requests.foldl Request.left c.remaining := by
  induction requests generalizing c with
  | nil => rfl
  | cons request requests ih => simp only [serveAll, List.foldl_cons, ih, remaining_serve]

/-- A cursor over a text answers as the list of the characters not yet consumed, request by
request. What the requests consume, one piece behind another, is the text up to what remains. -/
theorem serveAll_as_list (text : String) (requests : List Request) :
    ((ofList text.toList).serveAll requests).1 = Request.answers text.toList requests ∧
      ((ofList text.toList).serveAll requests).2.remaining =
        requests.foldl Request.left text.toList ∧
      text.toList = (Request.pieces text.toList requests).flatten ++
        ((ofList text.toList).serveAll requests).2.remaining := by
  have hanswers := serveAll_answers (ofList text.toList) requests
  have hleft := remaining_serveAll (ofList text.toList) requests
  rw [remaining_ofList] at hanswers hleft
  refine ⟨hanswers, hleft, ?_⟩
  rw [hleft, Request.flatten_pieces_append]

example : ((ofList "a€ \t\nb".toList).serveAll
    [.peek 1, .matchText "a€b".toList, .skip 2, .skipBlanks, .peek 5, .next, .skip 3, .isAtEnd]).1 =
    [.char (some '€'), .truth false, .done, .done, .char none, .char (some 'b'), .done,
      .truth true] := by
  rw [serveAll_answers]
  decide

end Cursor

end JsonQuery.Text
