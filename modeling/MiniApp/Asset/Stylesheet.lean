set_option autoImplicit false

namespace MiniApp.Asset

def componentRules : List String := [
  "*,",
  "*::before,",
  "*::after \x7b",
  "  box-sizing: border-box;",
  "\x7d",
  "",
  "html,",
  "body \x7b",
  "  margin: 0;",
  "  padding: 0;",
  "\x7d",
  "",
  "body \x7b",
  "  min-height: 100vh;",
  "  background: var(--mf-bg);",
  "  color: var(--mf-text);",
  "  font-family: -apple-system, BlinkMacSystemFont, \"Segoe UI\", Roboto, \"Helvetica Neue\", Arial, sans-serif;",
  "  font-size: 16px;",
  "  line-height: 1.5;",
  "  -webkit-font-smoothing: antialiased;",
  "  -webkit-tap-highlight-color: transparent;",
  "\x7d",
  "",
  "#mf-app,",
  "#root \x7b",
  "  max-width: 640px;",
  "  margin: 0 auto;",
  "  min-height: 100vh;",
  "\x7d",
  "",
  ".mf-container \x7b",
  "  display: flex;",
  "  min-width: 0;",
  "\x7d",
  "",
  ".mf-layout \x7b",
  "  display: flex;",
  "  flex-direction: column;",
  "  min-height: 100vh;",
  "\x7d",
  "",
  ".mf-layout-header,",
  ".mf-layout-footer \x7b",
  "  flex: none;",
  "\x7d",
  "",
  ".mf-layout-content \x7b",
  "  display: flex;",
  "  flex-direction: column;",
  "  flex: 1;",
  "\x7d",
  "",
  ".mf-text \x7b",
  "  margin: 0;",
  "  white-space: pre-wrap;",
  "  word-break: break-word;",
  "\x7d",
  "",
  ".mf-heading \x7b",
  "  margin: 0;",
  "  line-height: 1.25;",
  "  word-break: break-word;",
  "\x7d",
  "",
  ".mf-button \x7b",
  "  display: inline-flex;",
  "  align-items: center;",
  "  justify-content: center;",
  "  gap: 8px;",
  "  min-height: 44px;",
  "  padding: 10px 20px;",
  "  border: 1px solid transparent;",
  "  border-radius: var(--mf-radius);",
  "  font: inherit;",
  "  font-weight: 600;",
  "  cursor: pointer;",
  "  transition: opacity 0.15s ease, transform 0.15s ease;",
  "\x7d",
  "",
  ".mf-button:active \x7b",
  "  transform: scale(0.98);",
  "  opacity: 0.85;",
  "\x7d",
  "",
  ".mf-button:disabled \x7b",
  "  cursor: not-allowed;",
  "  opacity: 0.5;",
  "\x7d",
  "",
  ".mf-button-block \x7b",
  "  width: 100%;",
  "\x7d",
  "",
  ".mf-button-primary \x7b",
  "  background: var(--mf-primary);",
  "  color: var(--mf-on-primary);",
  "\x7d",
  "",
  ".mf-button-secondary \x7b",
  "  background: var(--mf-secondary);",
  "  color: var(--mf-text);",
  "\x7d",
  "",
  ".mf-button-outline \x7b",
  "  background: transparent;",
  "  border-color: var(--mf-primary);",
  "  color: var(--mf-primary);",
  "\x7d",
  "",
  ".mf-button-ghost \x7b",
  "  background: transparent;",
  "  color: var(--mf-primary);",
  "\x7d",
  "",
  ".mf-image \x7b",
  "  display: block;",
  "  width: 100%;",
  "  background: var(--mf-surface);",
  "\x7d",
  "",
  ".mf-card \x7b",
  "  display: flex;",
  "  flex-direction: column;",
  "  gap: 8px;",
  "  background: var(--mf-surface);",
  "  border: 1px solid var(--mf-border);",
  "  box-shadow: var(--mf-shadow);",
  "\x7d",
  "",
  ".mf-card-title \x7b",
  "  margin: 0;",
  "  font-size: 18px;",
  "  font-weight: 600;",
  "\x7d",
  "",
  ".mf-card-subtitle \x7b",
  "  margin: 0;",
  "  color: var(--mf-muted);",
  "  font-size: 14px;",
  "\x7d",
  "",
  ".mf-card-body,",
  ".mf-card-footer \x7b",
  "  display: flex;",
  "  flex-direction: column;",
  "  gap: 8px;",
  "\x7d",
  "",
  ".mf-card-footer \x7b",
  "  padding-top: 8px;",
  "  border-top: 1px solid var(--mf-border);",
  "\x7d",
  "",
  ".mf-carousel \x7b",
  "  position: relative;",
  "  overflow: hidden;",
  "  border-radius: var(--mf-radius);",
  "  background: var(--mf-surface);",
  "  touch-action: pan-y;",
  "  user-select: none;",
  "\x7d",
  "",
  ".mf-carousel-track \x7b",
  "  display: flex;",
  "  height: 100%;",
  "  transition: transform 0.35s ease;",
  "\x7d",
  "",
  ".mf-carousel-slide \x7b",
  "  flex: 0 0 100%;",
  "  height: 100%;",
  "\x7d",
  "",
  ".mf-carousel-slide img \x7b",
  "  display: block;",
  "  width: 100%;",
  "  height: 100%;",
  "  object-fit: cover;",
  "  pointer-events: none;",
  "\x7d",
  "",
  ".mf-carousel-dots \x7b",
  "  position: absolute;",
  "  left: 0;",
  "  right: 0;",
  "  bottom: 10px;",
  "  display: flex;",
  "  justify-content: center;",
  "  gap: 6px;",
  "\x7d",
  "",
  ".mf-carousel-dot \x7b",
  "  width: 8px;",
  "  height: 8px;",
  "  padding: 0;",
  "  border: none;",
  "  border-radius: 50%;",
  "  background: rgba(255, 255, 255, 0.5);",
  "  cursor: pointer;",
  "\x7d",
  "",
  ".mf-carousel-dot.mf-active \x7b",
  "  background: #ffffff;",
  "\x7d",
  "",
  ".mf-sheet \x7b",
  "  position: fixed;",
  "  inset: 0;",
  "  z-index: 50;",
  "  visibility: hidden;",
  "  pointer-events: none;",
  "\x7d",
  "",
  ".mf-sheet-backdrop \x7b",
  "  position: absolute;",
  "  inset: 0;",
  "  background: rgba(0, 0, 0, 0.4);",
  "  opacity: 0;",
  "  transition: opacity 0.25s ease;",
  "\x7d",
  "",
  ".mf-sheet-panel \x7b",
  "  position: absolute;",
  "  left: 0;",
  "  right: 0;",
  "  bottom: 0;",
  "  max-height: 85vh;",
  "  overflow-y: auto;",
  "  padding: 12px 20px 24px;",
  "  border-radius: 20px 20px 0 0;",
  "  background: var(--mf-bg);",
  "  transform: translateY(100%);",
  "  transition: transform 0.3s ease;",
  "\x7d",
  "",
  ".mf-sheet.mf-sheet-open \x7b",
  "  visibility: visible;",
  "  pointer-events: auto;",
  "\x7d",
  "",
  ".mf-sheet.mf-sheet-open .mf-sheet-backdrop \x7b",
  "  opacity: 1;",
  "\x7d",
  "",
  ".mf-sheet.mf-sheet-open .mf-sheet-panel \x7b",
  "  transform: translateY(0);",
  "\x7d",
  "",
  ".mf-sheet-handle \x7b",
  "  width: 40px;",
  "  height: 4px;",
  "  margin: 0 auto 12px;",
  "  border-radius: 2px;",
  "  background: var(--mf-border);",
  "\x7d",
  "",
  ".mf-sheet-title \x7b",
  "  margin: 0 0 12px;",
  "  font-size: 18px;",
  "\x7d",
  "",
  ".mf-sheet-content \x7b",
  "  display: flex;",
  "  flex-direction: column;",
  "  gap: 12px;",
  "\x7d",
  "",
  ".mf-sheet-close \x7b",
  "  width: 100%;",
  "  margin-top: 16px;",
  "\x7d",
  "",
  ".mf-tabbar \x7b",
  "  position: sticky;",
  "  bottom: 0;",
  "  display: flex;",
  "  border-top: 1px solid var(--mf-border);",
  "  background: var(--mf-bg);",
  "  padding-bottom: env(safe-area-inset-bottom);",
  "\x7d",
  "",
  ".mf-tab \x7b",
  "  flex: 1;",
  "  display: flex;",
  "  flex-direction: column;",
  "  align-items: center;",
  "  gap: 2px;",
  "  padding: 8px 4px;",
  "  border: none;",
  "  background: transparent;",
  "  color: var(--mf-muted);",
  "  font: inherit;",
  "  font-size: 12px;",
  "  cursor: pointer;",
  "\x7d",
  "",
  ".mf-tab-active \x7b",
  "  color: var(--mf-primary);",
  "  font-weight: 600;",
  "\x7d",
  "",
  ".mf-tab-icon \x7b",
  "  font-size: 20px;",
  "  line-height: 1;",
  "\x7d",
  "",
  ".mf-progress \x7b",
  "  display: flex;",
  "  flex-direction: column;",
  "  gap: 6px;",
  "\x7d",
  "",
  ".mf-progress-header \x7b",
  "  display: flex;",
  "  justify-content: space-between;",
  "  font-size: 14px;",
  "  color: var(--mf-muted);",
  "\x7d",
  "",
  ".mf-progress-track \x7b",
  "  width: 100%;",
  "  overflow: hidden;",
  "  border-radius: 999px;",
  "  background: var(--mf-secondary);",
  "\x7d",
  "",
  ".mf-progress-fill \x7b",
  "  height: 100%;",
  "  border-radius: 999px;",
  "  transition: width 0.3s ease;",
  "\x7d",
  "",
  ".mf-divider \x7b",
  "  width: 100%;",
  "  border: none;",
  "  border-top-style: solid;",
  "\x7d",
  "",
  ".mf-spacer \x7b",
  "  flex: none;",
  "\x7d",
  "",
  ".mf-field \x7b",
  "  display: flex;",
  "  flex-direction: column;",
  "  gap: 6px;",
  "\x7d",
  "",
  ".mf-field-label \x7b",
  "  font-size: 14px;",
  "  font-weight: 500;",
  "\x7d",
  "",
  ".mf-input \x7b",
  "  width: 100%;",
  "  min-height: 44px;",
  "  padding: 10px 12px;",
  "  border: 1px solid var(--mf-border);",
  "  border-radius: var(--mf-radius);",
  "  background: var(--mf-surface);",
  "  color: var(--mf-text);",
  "  font: inherit;",
  "\x7d",
  "",
  ".mf-input:focus \x7b",
  "  outline: 2px solid var(--mf-primary);",
  "  outline-offset: 1px;",
  "\x7d",
  "",
  ".mf-list \x7b",
  "  margin: 0;",
  "  padding-left: 20px;",
  "\x7d",
  "",
  ".mf-list-item + .mf-list-item \x7b",
  "  margin-top: 6px;",
  "\x7d",
  "",
  ".mf-avatar \x7b",
  "  display: inline-flex;",
  "  align-items: center;",
  "  justify-content: center;",
  "  flex: none;",
  "  border-radius: 50%;",
  "  object-fit: cover;",
  "  overflow: hidden;",
  "\x7d",
  "",
  ".mf-avatar-initials \x7b",
  "  background: var(--mf-primary);",
  "  color: var(--mf-on-primary);",
  "  font-weight: 600;",
  "\x7d",
  "",
  ".mf-badge \x7b",
  "  display: inline-flex;",
  "  align-self: flex-start;",
  "  align-items: center;",
  "  padding: 2px 10px;",
  "  border-radius: 999px;",
  "  font-size: 12px;",
  "  font-weight: 600;",
  "\x7d",
  "",
  ".mf-badge-primary \x7b",
  "  background: var(--mf-primary);",
  "  color: var(--mf-on-primary);",
  "\x7d",
  "",
  ".mf-badge-success \x7b",
  "  background: var(--mf-success);",
  "  color: #ffffff;",
  "\x7d",
  "",
  ".mf-badge-warning \x7b",
  "  background: var(--mf-warning);",
  "  color: #1f2937;",
  "\x7d",
  "",
  ".mf-badge-danger \x7b",
  "  background: var(--mf-danger);",
  "  color: #ffffff;",
  "\x7d",
  "",
  ".mf-badge-neutral \x7b",
  "  background: var(--mf-secondary);",
  "  color: var(--mf-text);",
  "\x7d",
  "",
  ".mf-navbar \x7b",
  "  position: sticky;",
  "  top: 0;",
  "  z-index: 10;",
  "  display: flex;",
  "  align-items: center;",
  "  gap: 8px;",
  "  min-height: 52px;",
  "  padding: 0 12px;",
  "  padding-top: env(safe-area-inset-top);",
  "  border-bottom: 1px solid var(--mf-border);",
  "  background: var(--mf-bg);",
  "\x7d",
  "",
  ".mf-navbar-back \x7b",
  "  width: 36px;",
  "  height: 36px;",
  "  border: none;",
  "  background: transparent;",
  "  color: var(--mf-primary);",
  "  font-size: 28px;",
  "  line-height: 1;",
  "  cursor: pointer;",
  "\x7d",
  "",
  ".mf-navbar-title \x7b",
  "  flex: 1;",
  "  margin: 0;",
  "  font-size: 17px;",
  "  font-weight: 600;",
  "  overflow: hidden;",
  "  text-overflow: ellipsis;",
  "  white-space: nowrap;",
  "\x7d",
  "",
  ".mf-navbar-actions \x7b",
  "  display: flex;",
  "  align-items: center;",
  "  gap: 8px;",
  "\x7d",
  "",
  ".mf-toast-host \x7b",
  "  position: fixed;",
  "  left: 50%;",
  "  bottom: 32px;",
  "  z-index: 100;",
  "  display: flex;",
  "  flex-direction: column;",
  "  align-items: center;",
  "  gap: 8px;",
  "  transform: translateX(-50%);",
  "  pointer-events: none;",
  "\x7d",
  "",
  ".mf-toast \x7b",
  "  max-width: 90vw;",
  "  padding: 10px 16px;",
  "  border-radius: 999px;",
  "  background: rgba(17, 24, 39, 0.92);",
  "  color: #ffffff;",
  "  font-size: 14px;",
  "  opacity: 0;",
  "  transform: translateY(8px);",
  "  transition: opacity 0.2s ease, transform 0.2s ease;",
  "\x7d",
  "",
  ".mf-toast.mf-toast-visible \x7b",
  "  opacity: 1;",
  "  transform: translateY(0);",
  "\x7d",
  "",
  ".mf-footer \x7b",
  "  padding: 24px 16px;",
  "  text-align: center;",
  "  font-size: 13px;",
  "  color: var(--mf-muted);",
  "\x7d",
  "",
  ".mf-footer a \x7b",
  "  color: inherit;",
  "\x7d",
  "",
  ".mf-empty \x7b",
  "  padding: 48px 24px;",
  "  text-align: center;",
  "  color: var(--mf-muted);",
  "\x7d"]

end MiniApp.Asset
