import JsonQuery.Error

/-!
# Quoted strings

A string stands between single quotes. A backslash introduces an escape; any other character but
the closing quote stands for itself, line ends included.
-/

namespace JsonQuery

/-- The character that an escape stands for. -/
def unescape? : Char → Option Char
  | 'b' => some '\x08'
  | 't' => some '\t'
  | 'n' => some '\n'
  | 'f' => some '\x0c'
  | 'r' => some '\r'
  | '\\' => some '\\'
  | '"' => some '"'
  | '\'' => some '\''
  | '/' => some '/'
  | _ => none

/-- Reads from behind the opening quote to behind the closing one. -/
def readQuoted : List Char → Except PathError (List Char × List Char)
  | [] => .error .openString
  | '\'' :: rest => .ok ([], rest)
  | '\\' :: [] => .error .openString
  | '\\' :: c :: rest =>
    match unescape? c with
    | none => .error (.unknownEscape c)
    | some meant => do
      let (text, rest) ← readQuoted rest
      return (meant :: text, rest)
  | c :: rest => do
    let (text, rest) ← readQuoted rest
    return (c :: text, rest)

theorem readQuoted_length {cs text rest : List Char} (h : readQuoted cs = .ok (text, rest)) :
    rest.length < cs.length := by
  fun_induction readQuoted cs generalizing text rest with
  | case1 => simp at h
  | case2 => simp only [Except.ok.injEq, Prod.mk.injEq] at h; simp [← h.2]
  | case3 => simp at h
  | case4 => simp at h
  | case5 c cs meant hm ih =>
    cases hr : readQuoted cs with
    | error e => simp [hr, bind, Except.bind] at h
    | ok p =>
      obtain ⟨t, r⟩ := p
      simp only [hr, bind, Except.bind, pure, Except.pure, Except.ok.injEq, Prod.mk.injEq] at h
      have := ih hr
      simp only [List.length_cons, ← h.2]
      omega
  | case6 c cs _ _ _ ih =>
    cases hr : readQuoted cs with
    | error e => simp [hr, bind, Except.bind] at h
    | ok p =>
      obtain ⟨t, r⟩ := p
      simp only [hr, bind, Except.bind, pure, Except.pure, Except.ok.injEq, Prod.mk.injEq] at h
      have := ih hr
      simp only [List.length_cons, ← h.2]
      omega

end JsonQuery
