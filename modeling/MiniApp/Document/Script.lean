import MiniApp.Asset.DocumentScript
import MiniApp.Source.Script
import MiniApp.Source.Writer

set_option autoImplicit false

namespace MiniApp

structure RenderedPage where
  id : String
  title : String
  html : String
deriving DecidableEq

namespace DocumentScript

def configuration (appName : String) (timeout : Nat) (pages : List RenderedPage) : Script :=
  let first := match pages with
    | page :: _ => Script.text page.id
    | [] => .code "null"
  .record [("appName", .text appName), ("bridgeTimeoutMs", .number (.ofNat timeout)),
    ("initialPage", first)]

def pageLine (p : RenderedPage) : String :=
  Escape.literal p.id ++ ": \x7b title: " ++ Escape.literal p.title ++ ", html: " ++
    Escape.literal p.html ++ " \x7d,"

def pageTable (pages : List RenderedPage) : List String :=
  if pages.isEmpty then ["const PAGES = \x7b\x7d;"]
  else ["const PAGES = \x7b"] ++ (pages.map fun p => indented 1 (pageLine p)) ++ ["\x7d;"]

def configurationLine (appName : String) (timeout : Nat) (pages : List RenderedPage) : String :=
  "const MF_CONFIG = " ++ (configuration appName timeout pages).render ++ ";"

def text (appName : String) (timeout : Nat) (pages : List RenderedPage) : String :=
  finishLines (["'use strict';", "", configurationLine appName timeout pages] ++
    pageTable pages ++ [""] ++ Asset.bridgeScript ++ [""] ++ Asset.interactionScript)

end DocumentScript

end MiniApp
