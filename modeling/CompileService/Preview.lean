import CompileService.Text.Basic

/-!
# Preview pages

The page on which a compiled script runs: style sheets, then library scripts, then the script
itself, one to a line.
-/

namespace CompileService.Preview

/-- The element that loads a script. -/
def scriptTag (src : Text) : Text :=
  lit "<script type=\"text/javascript\" src=\"" ++ src ++ lit "\"></script>"

/-- The element that loads a style sheet. -/
def stylesheetTag (href : Text) : Text := lit "<link href='" ++ href ++ lit "' rel='stylesheet'>"

/-- The indent of the lines inside the head of a page. -/
def indent : Text := lit "    "

/-- The lines of a page. -/
def pageLines (script : Text) (stylesheets scripts : List Text) : List Text :=
  [lit "<!doctype html>", lit "<html>", lit "  <head>",
    indent ++ lit "<meta http-equiv='Content-Type' content='text/html; charset=utf-8'>"] ++
  stylesheets.map (fun href => indent ++ stylesheetTag href) ++
  (scripts ++ [script]).map (fun src => indent ++ scriptTag src) ++
  [lit "  </head>", lit "  <body><noscript>Please enable JavaScript.</noscript></body>",
    lit "</html>"]

/-- A page; every line ends with a line feed. -/
def render (script : Text) (stylesheets scripts : List Text) : Text :=
  (pageLines script stylesheets scripts).flatMap fun line => line ++ [CodePoint.lineFeed]

end CompileService.Preview
