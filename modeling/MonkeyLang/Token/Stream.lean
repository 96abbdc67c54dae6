import MonkeyLang.Token.Scanner

namespace MonkeyLang

/-!
# Two ways to draw tokens

A token stream can be asked for the next token for ever, and then repeats the
end token.  It can also be read as a sequence, which stops after the end token
that the sequence itself has given.  Both draw from one scanner, and only the
sequence remembers that it has ended.
-/

/-- A scanner together with the memory of the sequence read from it. -/
structure TokenStream where
  scanner : Scanner
  finished : Bool := false

namespace TokenStream

/-- A stream at the start of a source. -/
def ofString (source : String) : TokenStream := { scanner := Scanner.ofString source }

/-- The next token, without end. -/
def draw (stream : TokenStream) : Token × TokenStream :=
  let (token, later) := stream.scanner.draw
  (token, { stream with scanner := later })

/-- The next member of the sequence: nothing once it has given an end token. -/
def next (stream : TokenStream) : Option Token × TokenStream :=
  if stream.finished then (none, stream)
  else
    let (token, later) := stream.draw
    (some token, { later with finished := token.type = .ending })

/-- The two requests that a stream answers. -/
inductive Request where
  | draw
  | next
  deriving DecidableEq

/-- The answer to one request. -/
def answer (stream : TokenStream) : Request -> Option Token × TokenStream
  | .draw => (some stream.draw.1, stream.draw.2)
  | .next => stream.next

/-- The answers to a series of requests. -/
def answers (stream : TokenStream) : List Request -> List (Option Token)
  | [] => []
  | request :: later =>
      let (token, behind) := stream.answer request
      token :: behind.answers later

end TokenStream
end MonkeyLang
