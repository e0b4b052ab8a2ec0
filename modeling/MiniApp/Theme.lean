import MiniApp.Asset.Stylesheet
import MiniApp.Escape
import MiniApp.Source.Writer

set_option autoImplicit false

namespace MiniApp

structure Palette where
  background : String
  surface : String
  text : String
  muted : String
  primary : String
  onPrimary : String
  secondary : String
  border : String
  success : String
  warning : String
  danger : String
  shadow : String

namespace Theme

def light : Palette where
  background := "#ffffff"
  surface := "#f8fafc"
  text := "#111827"
  muted := "#6b7280"
  primary := "#3b82f6"
  onPrimary := "#ffffff"
  secondary := "#e5e7eb"
  border := "#e5e7eb"
  success := "#16a34a"
  warning := "#f59e0b"
  danger := "#dc2626"
  shadow := "0 1px 3px rgba(0, 0, 0, 0.08)"

def dark : Palette where
  background := "#0f172a"
  surface := "#1e293b"
  text := "#f1f5f9"
  muted := "#94a3b8"
  primary := "#60a5fa"
  onPrimary := "#0f172a"
  secondary := "#334155"
  border := "#334155"
  success := "#22c55e"
  warning := "#fbbf24"
  danger := "#f87171"
  shadow := "0 1px 3px rgba(0, 0, 0, 0.4)"

def palette (isDark : Bool) : Palette := if isDark then dark else light

def name (isDark : Bool) : String := if isDark then "dark" else "light"

def tokens (p : Palette) : List (String × String) := [("bg", p.background),
  ("surface", p.surface), ("text", p.text), ("muted", p.muted), ("primary", p.primary),
  ("on-primary", p.onPrimary), ("secondary", p.secondary), ("border", p.border),
  ("success", p.success), ("warning", p.warning), ("danger", p.danger), ("shadow", p.shadow)]

def rootRule (isDark : Bool) : String :=
  "\n".intercalate ([":root \x7b", "  color-scheme: " ++ name isDark ++ ";"] ++
    ((tokens (palette isDark)).map fun t => "  --mf-" ++ t.1 ++ ": " ++ t.2 ++ ";") ++
    ["  --mf-radius: 12px;", "\x7d"])

def stylesheet (title : String) (isDark : Bool) : String :=
  "/* " ++ Escape.comment title ++ " */\n\n" ++ rootRule isDark ++ "\n\n" ++
    "\n".intercalate Asset.componentRules

end Theme

end MiniApp
