/-
# Canonical spans

How the parts of a line are written in canonical markup.  Emphasis keeps its own marks,
references stay references with their label in lower case, and autolinks stay autolinks.  The
description of an image is written without any marks of its own.

A span is written with what stands around it in mind: the labels that have been named so far,
whether it is in a heading, and the span that comes next, since an exclamation mark in front of a
link would make an image of it.
-/
import TaskNotes.Format.Escape
import TaskNotes.Render.Inline
import TaskNotes.Markup.Syntax

namespace TaskNotes.Format

open Markup

/-! ## 1. Links

A target is a destination or a label.  The label is left out behind a text that is the same, so a
shortcut stays one. -/

/-- A destination, in angle brackets where it needs them. -/
def destination (address : List Char) : List Char :=
  if address.isEmpty || address.any (fun c => endsBare c || c == '(' || c == ')') then
    '<' :: address ++ ['>']
  else address

/-- A title between quotes, with the blank before it; nothing when there is none. -/
def title (escapesQuotes : Bool) : Option (List Char) → List Char
  | none => []
  | some value =>
    ' ' :: '"' :: value.flatMap (fun c => if c = '"' && escapesQuotes then ['\\', c] else [c])
      ++ ['"']

/-- A text in brackets with its target behind it. -/
def linked (escapesQuotes : Bool) (text : List Char) (target : Target) : List Char :=
  match target.label with
  | some label =>
    let name := lowercase label
    if lowercase text = name then '[' :: text ++ [']']
    else '[' :: text ++ ']' :: '[' :: name ++ [']']
  | none =>
    '[' :: text ++ ']' :: '(' :: destination target.address
      ++ title escapesQuotes target.title ++ [')']

/-- An autolink; the scheme of a mail address is written only when it is shown. -/
def autolink (address shown : List Char) : List Char :=
  let scheme := "mailto:".toList
  let written :=
    if scheme.isPrefixOf address && !scheme.isPrefixOf shown then address.drop scheme.length
    else address
  '<' :: written ++ ['>']

/-- A code span. -/
def codeSpan (value : List Char) : List Char :=
  let run := longestRun '\x60' value
  if run ≠ 0 then
    let fence := List.replicate (run + 1) '\x60'
    fence ++ ' ' :: value ++ ' ' :: fence
  else if headIs (· == ' ') value && value.getLast? == some ' ' && !allBlank value then
    '\x60' :: ' ' :: value ++ [' ', '\x60']
  else '\x60' :: value ++ ['\x60']

/-! ## 2. Descriptions of images

A description is a text without marks, but what is a link in it is written as a link. -/

mutual
/-- A span in the description of an image. -/
def describe : Span → List Char
  | .text value => value
  | .softBreak => ['\n']
  | .hardBreak | .code _ | .html _ => []
  | .emphasis _ children | .strong _ children | .strike children => describeAll children
  | .link target children => linked true (describeAll children) target
  | .autolink address shown => autolink address shown
  | .image _ _ children => describeAll children

/-- Several spans in the description of an image. -/
def describeAll : List Span → List Char
  | [] => []
  | s :: ss => describe s ++ describeAll ss
end

/-! ## 3. Labels in use

In the order in which they are named. -/

mutual
/-- The labels that the references in a span name; an image in the description of another one is
written without its target. -/
def labelsOf (inImage : Bool) : Span → List (List Char)
  | .emphasis _ children | .strong _ children | .strike children =>
    labelsOfAll inImage children
  | .link target children => labelsOfAll inImage children ++ target.label.toList
  | .image target _ children =>
    labelsOfAll true children ++ (if inImage then [] else target.label.toList)
  | _ => []

/-- The labels that the references in several spans name. -/
def labelsOfAll (inImage : Bool) : List Span → List (List Char)
  | [] => []
  | s :: ss => labelsOf inImage s ++ labelsOfAll inImage ss
end

/-! ## 4. Lines -/

/-- A hard line break, which must not end the line of a heading. -/
def hardBreak (inHeading : Bool) : List Char :=
  if inHeading then "<br /> ".toList else ['\\', '\n']

/-- Whether a span is a link of any form. -/
def isLink : Span → Bool
  | .link _ _ | .autolink _ _ => true
  | _ => false

/-- A text; before a link its last character must not be a `!` that makes an image of it. -/
def textBefore (labels : List (List Char)) (value : List Char) (next : Option Span) : List Char :=
  let written := escapeText labels value
  if written.getLast? = some '!' ∧ (next.map isLink).getD false then
    written.dropLast ++ ['\\', '!']
  else written

mutual
/-- A span, given the labels that references so far have named and the span that comes next. -/
def span (labels : List (List Char)) (inHeading : Bool) (next : Option Span) : Span → List Char
  | .text value => textBefore labels value next
  | .softBreak => ['\n']
  | .hardBreak => hardBreak inHeading
  | .code value => codeSpan value
  | .html source => source
  | .emphasis mark children => mark :: spans labels inHeading children ++ [mark]
  | .strong mark children => mark :: mark :: spans labels inHeading children ++ [mark, mark]
  | .strike children => '~' :: '~' :: spans labels inHeading children ++ ['~', '~']
  | .link target children => linked true (spans labels inHeading children) target
  | .autolink address shown => autolink address shown
  | .image target _ children => '!' :: linked false (describeAll children) target

/-- Several spans. -/
def spans (labels : List (List Char)) (inHeading : Bool) : List Span → List Char
  | [] => []
  | s :: ss =>
    span labels inHeading ss.head? s ++ spans (labels ++ labelsOf false s) inHeading ss
end

end TaskNotes.Format
