import EventFlow.Text.CodeTable

/-!
# The direction of domain names

What a label must look like where some label of a domain name is written from right to left.

A label has one direction, that of its first character. It ends in a letter of that direction or in
a number, marks behind that not counted, and holds no letter of the other direction; numbers of the
two kinds do not meet in a label that is written from right to left.

The classes are those of Unicode 17, restricted to characters that may stand in a domain name.

## Main definitions

* `Domain.Direction`: the class of a character.
* `Domain.isRightToLeft`: whether a label makes its domain name subject to the rule.
* `Domain.keepsDirection`: whether a label obeys the rule.
-/

namespace EventFlow

namespace Domain

/-- What a character does to the direction of a text. -/
inductive Direction where
  /-- A letter of a script that is written from left to right. -/
  | left
  /-- A letter of a script that is written from right to left. -/
  | right
  /-- A digit of an Arabic number. -/
  | arabic
  /-- A digit of any other number. -/
  | european
  /-- A mark without a direction of its own. -/
  | mark
  | neutral
  deriving DecidableEq, Repr, Inhabited

/-- The rows of the classes. -/
def directionRows : List String := [
  "0O 1cE aO 13L qO 2sL oO 1L chO 2L 7O eL 2O sL 1O hN 35L 4O 2L 3jO 2L 3vN 8L 73O 7N 19R",
  "1N 1R 1N 2R 1N 2R 1N 9R 1iO 2R 1O 2R 1O 1R 1O 2N bR 1cN lA aO 1A 2R 3N 1R 2tN 8O 1N 6R",
  "2N 2O 1N 4R 2E aR nN 1R uN tR 2hN bR 1mN 9R 2O 4R 3N 1R oN 4R 1N 9R 1N 3R 1N 7R 15N 5R",
  "1lN 9R 16N 1lL 1jN 1L 1N 1L 4N 8L 4N 1L 3N fL 2N 2L tN 1L 1mN 1L 4N 6L 6N 1L kN 4L cO 2L",
  "7O 1L 2N 5L 1lN 2L 3N rL kN 2L 3N 1L bN 2L 1lN 1L 4N 8L 4N 3L iN 4L bO 8L 1N 8L 1mN 1L",
  "2N 1L 1N 6L 6N aL bN 4L sN 1L 1pN 1L cN 3L zO dN 1L 3N 1L 1jN 1L 1N 3L 5N iL aN 4L iO 7L",
  "2N 1L 1mN 1L fN 9L dN 4L qN 2L 1lN 2L 4N 5L 7N 1L kN 4L rN 1L 20N 5L 3N 6L 2hN 1L 2N bO",
  "1L 7N 8L 2qN 1L 2N 9L bN 8L 20N 2L rN 1L 1N 1L 1N 1O 4L 1fN eL 1N 5L 1N 2L 5N 1dL 8N 1L",
  "2uN 4L 1N 6L 1N 2L 2N 2L pN 2L 4N 3L gN 4L dN 1L 2N 2L 6N 1L fN 1L jjN 3L 1cO gL 2oO 1L",
  "iiO 5L 36N 3L tN 2L uN eL iN eL 1jN 7L 8N 1L 2N bL 7O 1L 1N 3L gO wL 39N 2L yN 1L 3aN 3L",
  "4N 2L 9N 1L 6N 7O 6L 48O yL nN 2L 2N 3L 1kN 1L 1N 9L 1N 1L 2N 8L 6N dL 1cN 2cL 1cN 1L 1N",
  "5L 1N 1L 5N 1L bO 2L rN 9L bO 1N 2L wN 4L 2N 2L 1N 3L 1kN 1L 1N 2L 3N 1L 1N 3L 1mN 8L 2N",
  "5L 45N 3L 1N dL 1N 7L 4N 1L 6N 1L 3N 2L 5iN 1tL ejO 5gN 1gO 22L 1oO bwL 1xO qL 1O lyL 1O",
  "9fL 74O moL 51O 7L 3N 4L 6O 7L 3jN 1L 2oN wO edL 3O pL 9N 4L 2O 1L 6O 4L 2O 4L 2gN 4L 3O",
  "1L 2iO 1L 5gO 1cL 5hsO 1sL h3kO 1sL 8tO 3L 2nN 4O 1N aO 3L tN 2L 28N 2L eO zL 2tO 1L 3dN",
  "1L 3N 1L 4N 1L pN 2L 1O 4N 4L 8O 8L 1gO cL 1wN aL iN iL dN 1L 12N 8L pN bL 1aN 3L 1cN 1L",
  "2N 4L 2N 2L 13N 1L 1vN 6L 2N 2L 2N bL 3N 1L 8N 1L 1bN 1L 1fN 1L 1N 3L 2N 2L 5N 2L 1N 1L",
  "16N 2L 8N bL 2xO 2eL 11N 1L 2N 1L 4N 3L fn2N 44R b0O 2aR 1rO 29N 11O 1aR b1L 75O 1L 1qO",
  "25L 3O 1sL 19N 3nL 2oN 1E vL 3aN aL w0R 7zO 1R 69N fR 14N 8R 4lN 6R 26O 7R dgN cA qR vN",
  "5R 6qA wR 17N 2R 25N 6R 1yN bR 1dN 4R 3eL 1N 1L 1iN fL bO kL aN 1L 2N 2L aN 3L 1dN 4L 2N",
  "2L 7N eL 1cN 3L 10N 5L 1N 9L 1pN 1L cN 2L 1gN 9L aN 4L 2N 1L 2nN 3L 2N 1L 1N 2L 6N 1L 2N",
  "1rL 2nN 1L 3N dL gN 2L 1lN 2L 3N 1L 11N qL 1nN 7L cN 1L 1N 1L 1N 1L 1O dN vL 1kN 8L 2N",
  "3L 1N 1L nN 1L 2cN 6L 1N 1L 4N 2L 1N 2L 6mN 6L 4N 2L 1N 2L rN 10L 1fN 8L 2N 1L 1N 2L vO",
  "wL 17N 1L 1N 1L 2N 6L 1N 1L 2tN 3L 2N 4L 1N 9L 73N 9L 1N 2L 74N 2L 1N 1L 4N 1L 40N 8L 4N",
  "1L wN 6L 2N 2L 14N 6L 2N 4L 8N 9L 1N 6L 2N 3L 1aN dL 1N 2L 5iN 1L 1N 3L 1N 1L 3eO fL 1sN",
  "eL 2cN nL 1N 7L 1N 2L 1N 23L 1dN lL 1N 9L 1sN 3L 2N 1L 1N 1L 9nN 2L bN 2L 1gN 8L 2N 1L",
  "1N 1L nN 2eL 11O 16L 401N 1L 6N pL 8u6N cL 3N 3L 1xcN 5L 1nN 7L fqO 3L dbN 1L 1rN 4L 27O",
  "1L 1N cL f59N 2L 31dO lcN 28L evN 3L hN 8L 2N 7L uN 4L 1nO 2hN 3O 3fL 1sO 2oL 1b4N 1jL",
  "4N 1eL 8N 1L eN 1L mN v9L 74N 74L 1cN 7L afN iL 18N 4L fO cxL sN 4L 72N 2L fO 5dL zN 1L",
  "2N 1L 7N 2L 5N 9L 76R 5sN 2aR yN 7R 145O gwL tO 3L 1pO 1lL 3eO 2owL"]

/-- The class that a letter stands for. -/
def Direction.ofLetter : Char → Direction
  | 'R' => .right
  | 'A' => .arabic
  | 'E' => .european
  | 'N' => .mark
  | 'O' => .neutral
  | _ => .left

/-- The classes. -/
def directionTable : CodeTable Direction :=
  .ofRows (fun kind _ => .ofLetter kind) directionRows

/-- The class of a character. -/
def direction (c : Char) : Direction :=
  directionTable.value .left c

/-- Whether a label has a character that is written from right to left. -/
def isRightToLeft (label : List Char) : Bool :=
  label.any fun c => direction c == .right || direction c == .arabic

/-- Whether classes are those of a label that is written from left to right. -/
def keepsLeft (classes : List Direction) : Bool :=
  classes.all (fun d => d != .right && d != .arabic) &&
    match classes.reverse.dropWhile (· == .mark) with
    | last :: _ => last == .left || last == .european
    | [] => false

/-- Whether classes are those of a label that is written from right to left. -/
def keepsRight (classes : List Direction) : Bool :=
  classes.all (· != .left) &&
    !(classes.contains .european && classes.contains .arabic) &&
    match classes.reverse.dropWhile (· == .mark) with
    | last :: _ => last == .right || last == .european || last == .arabic
    | [] => false

/-- Whether a label keeps to one direction. -/
def keepsDirection (label : List Char) : Bool :=
  let classes := label.map direction
  match classes with
  | [] => true
  | .left :: _ => keepsLeft classes
  | .right :: _ => keepsRight classes
  | _ => false

end Domain

end EventFlow
