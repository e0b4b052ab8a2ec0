import MiniApp.Template

set_option autoImplicit false

namespace MiniApp.Asset

def packageManifest : Template := ⟨[
  .text (fileText [
    "\x7b"] ++ "  \"name\": "),
  .json (some (.name "slug")),
  .text (fileText [
    ",",
    "  \"private\": true,",
    "  \"version\": \"0.1.0\","] ++ "  \"description\": "),
  .json (some (.name "description")),
  .text (fileText [
    ",",
    "  \"type\": \"module\",",
    "  \"scripts\": \x7b",
    "    \"dev\": \"vite\",",
    "    \"build\": \"tsc && vite build\",",
    "    \"preview\": \"vite preview\"",
    "  \x7d,",
    "  \"dependencies\": \x7b",
    "    \"react\": \"^18.3.1\",",
    "    \"react-dom\": \"^18.3.1\"",
    "  \x7d,",
    "  \"devDependencies\": \x7b",
    "    \"@types/react\": \"^18.3.3\",",
    "    \"@types/react-dom\": \"^18.3.0\",",
    "    \"@vitejs/plugin-react\": \"^4.3.1\",",
    "    \"typescript\": \"^5.5.3\",",
    "    \"vite\": \"^5.4.0\"",
    "  \x7d",
    "\x7d"])]⟩

def indexPage : Template := ⟨[
  .text (fileText [
    "<!DOCTYPE html>"] ++ "<html lang=\""),
  .value "lang",
  .text "\" data-theme=\"",
  .value "theme",
  .text (fileText [
    "\">",
    "  <head>",
    "    <meta charset=\"utf-8\" />",
    "    <meta name=\"viewport\" content=\"width=device-width, initial-scale=1, viewport-fit=cover\" />",
    "    <meta name=\"generator\" content=\"miniforge\" />"] ++ "    <title>"),
  .value "title",
  .text (fileText [
    "</title>",
    "  </head>",
    "  <body>",
    "    <div id=\"root\"></div>",
    "    <script type=\"module\" src=\"/src/main.tsx\"></script>",
    "  </body>",
    "</html>"])]⟩

def readme : Template := ⟨[
  .text "# ",
  .value "name",
  .text (fileText [
    "",
    "",
    "Generated by miniforge.",
    "",
    "## Getting started",
    "",
    "```sh",
    "npm install",
    "npm run dev",
    "```",
    "",
    "`npm run build` type-checks the project and writes a static build to `dist/`.",
    "",
    "## Layout",
    "",
    "- `src/App.tsx`: the app's component tree",
    "- `src/components.tsx`: carousel, sheet and tab bar components",
    "- `src/bridge.ts`: calls into the host app (payments, sharing, toasts)",
    "- `src/index.css`: theme tokens and component styles"]),
  .whenTrue (.name "submission") [
    .text (fileText [
    "- `src/pages/PrivacyPolicy.tsx`: privacy policy, served at `#/privacy`"])]]⟩

def bridgeModule : Template := ⟨[
  .text (fileText [
    "// Host bridge: forwards requests to the embedding host when framed by one,",
    "// otherwise falls back to browser APIs.",
    "",
    "export interface PayRequest \x7b",
    "  amount: number;",
    "  currency: string;",
    "  description?: string;",
    "\x7d",
    "",
    "export interface PayResult \x7b",
    "  success: boolean;",
    "  transactionId?: string;",
    "  amount?: number;",
    "  currency?: string;",
    "\x7d",
    "",
    "export interface User \x7b",
    "  id: string;",
    "  name: string;",
    "  isGuest?: boolean;",
    "\x7d",
    "",
    "export interface ShareRequest \x7b",
    "  title?: string;",
    "  text?: string;",
    "  url?: string;",
    "\x7d",
    "",
    "export interface PushPermission \x7b",
    "  granted: boolean;",
    "  status: string;",
    "\x7d",
    "",
    "interface PendingCall \x7b",
    "  resolve: (value: unknown) => void;",
    "  reject: (error: Error) => void;",
    "  timer: ReturnType<typeof setTimeout> | null;",
    "\x7d",
    "",
    "interface HostMessage \x7b",
    "  type?: unknown;",
    "  callbackId?: string;",
    "  payload?: unknown;",
    "  error?: unknown;",
    "\x7d",
    ""] ++ "const BRIDGE_TIMEOUT_MS = "),
  .value "timeoutMs",
  .text (fileText [
    ";",
    "const HOST_FRAME_NAME = 'miniforge-host';",
    "",
    "export class CallbackTable \x7b",
    "  private entries = new Map<string, PendingCall>();",
    "  private nextId = 1;",
    "",
    "  add(resolve: PendingCall['resolve'], reject: PendingCall['reject'], timeoutMs: number): string \x7b",
    "    const id = `cb$\x7bthis.nextId++\x7d`;",
    "    const timer = timeoutMs > 0 ? setTimeout(() => this.reject(id, new Error('Bridge call timed out')), timeoutMs) : null;",
    "    this.entries.set(id, \x7b resolve, reject, timer \x7d);",
    "    return id;",
    "  \x7d",
    "",
    "  remove(id: string): PendingCall | null \x7b",
    "    const entry = this.entries.get(id);",
    "    if (!entry) \x7b",
    "      return null;",
    "    \x7d",
    "    this.entries.delete(id);",
    "    if (entry.timer !== null) \x7b",
    "      clearTimeout(entry.timer);",
    "    \x7d",
    "    return entry;",
    "  \x7d",
    "",
    "  resolve(id: string, value: unknown): boolean \x7b",
    "    const entry = this.remove(id);",
    "    entry?.resolve(value);",
    "    return entry !== null;",
    "  \x7d",
    "",
    "  reject(id: string, error: Error): boolean \x7b",
    "    const entry = this.remove(id);",
    "    entry?.reject(error);",
    "    return entry !== null;",
    "  \x7d",
    "",
    "  get size(): number \x7b",
    "    return this.entries.size;",
    "  \x7d",
    "\x7d",
    "",
    "function detectHost(): boolean \x7b",
    "  if (window.parent === window) \x7b",
    "    return false;",
    "  \x7d",
    "  try \x7b",
    "    if (new URLSearchParams(window.location.search).has('host')) \x7b",
    "      return true;",
    "    \x7d",
    "  \x7d catch \x7b",
    "    // Opaque locations have no readable query.",
    "  \x7d",
    "  return window.name === HOST_FRAME_NAME;",
    "\x7d",
    "",
    "function copyWithSelection(text: string): Promise<void> \x7b",
    "  const area = document.createElement('textarea');",
    "  area.value = text;",
    "  area.setAttribute('readonly', '');",
    "  area.style.position = 'fixed';",
    "  area.style.opacity = '0';",
    "  document.body.appendChild(area);",
    "  area.select();",
    "  let copied = false;",
    "  try \x7b",
    "    copied = document.execCommand('copy');",
    "  \x7d catch \x7b",
    "    copied = false;",
    "  \x7d",
    "  document.body.removeChild(area);",
    "  return copied ? Promise.resolve() : Promise.reject(new Error('Clipboard unavailable'));",
    "\x7d",
    "",
    "function showToast(message: string, duration: number): void \x7b",
    "  let host = document.getElementById('mf-toasts');",
    "  if (!host) \x7b",
    "    host = document.createElement('div');",
    "    host.id = 'mf-toasts';",
    "    host.className = 'mf-toast-host';",
    "    host.setAttribute('aria-live', 'polite');",
    "    document.body.appendChild(host);",
    "  \x7d",
    "  const el = document.createElement('div');",
    "  el.className = 'mf-toast';",
    "  el.setAttribute('role', 'status');",
    "  el.textContent = message;",
    "  host.appendChild(el);",
    "  requestAnimationFrame(() => el.classList.add('mf-toast-visible'));",
    "  setTimeout(() => \x7b",
    "    el.classList.remove('mf-toast-visible');",
    "    setTimeout(() => el.remove(), 250);",
    "  \x7d, duration);",
    "\x7d",
    "",
    "export class Bridge \x7b",
    "  readonly inHost: boolean;",
    "  private callbacks = new CallbackTable();",
    "",
    "  constructor(private timeoutMs: number) \x7b",
    "    this.inHost = detectHost();",
    "    window.addEventListener('message', (event) => this.handleMessage(event));",
    "  \x7d",
    "",
    "  private handleMessage(event: MessageEvent): void \x7b",
    "    if (!this.inHost || event.source !== window.parent) \x7b",
    "      return;",
    "    \x7d",
    "    const data = event.data as HostMessage | null;",
    "    if (!data || typeof data.type !== 'string' || !data.type.startsWith('callback:') || !data.callbackId) \x7b",
    "      return;",
    "    \x7d",
    "    if (data.error) \x7b",
    "      this.callbacks.reject(data.callbackId, new Error(String(data.error)));",
    "    \x7d else \x7b",
    "      this.callbacks.resolve(data.callbackId, data.payload);",
    "    \x7d",
    "  \x7d",
    "",
    "  private request<T>(type: string, payload: object): Promise<T> \x7b",
    "    return new Promise<T>((resolve, reject) => \x7b",
    "      const callbackId = this.callbacks.add((value) => resolve(value as T), reject, this.timeoutMs);",
    "      try \x7b",
    "        window.parent.postMessage(\x7b type, payload, callbackId \x7d, '*');",
    "      \x7d catch (error) \x7b",
    "        this.callbacks.reject(callbackId, error instanceof Error ? error : new Error(String(error)));",
    "      \x7d",
    "    \x7d);",
    "  \x7d",
    "",
    "  private notify(type: string, payload: object): void \x7b",
    "    window.parent.postMessage(\x7b type, payload \x7d, '*');",
    "  \x7d",
    "",
    "  goBack(): void \x7b",
    "    if (this.inHost) \x7b",
    "      this.notify('goBack', \x7b\x7d);",
    "    \x7d else \x7b",
    "      window.history.back();",
    "    \x7d",
    "  \x7d",
    "",
    "  pay(options: PayRequest): Promise<PayResult> \x7b",
    "    if (this.inHost) \x7b",
    "      return this.request<PayResult>('pay', options);",
    "    \x7d",
    "    return Promise.resolve(\x7b",
    "      success: true,",
    "      transactionId: `demo-$\x7bDate.now()\x7d`,",
    "      amount: options.amount,",
    "      currency: options.currency,",
    "    \x7d);",
    "  \x7d",
    "",
    "  toast(message: string, duration = 2000): void \x7b",
    "    if (this.inHost) \x7b",
    "      this.notify('toast', \x7b message: String(message), duration \x7d);",
    "    \x7d else \x7b",
    "      showToast(String(message), duration);",
    "    \x7d",
    "  \x7d",
    "",
    "  getUser(): Promise<User> \x7b",
    "    if (this.inHost) \x7b",
    "      return this.request<User>('getUser', \x7b\x7d);",
    "    \x7d",
    "    return Promise.resolve(\x7b id: 'guest', name: 'Guest', isGuest: true \x7d);",
    "  \x7d",
    "",
    "  share(options: ShareRequest): Promise<void> \x7b",
    "    if (this.inHost) \x7b",
    "      return this.request<void>('share', options);",
    "    \x7d",
    "    if (navigator.share) \x7b",
    "      return navigator.share(options);",
    "    \x7d",
    "    const text = options.url || options.text || options.title || '';",
    "    return this.copyToClipboard(text).then(() => this.toast('Link copied'));",
    "  \x7d",
    "",
    "  openLink(url: string): void \x7b",
    "    if (this.inHost) \x7b",
    "      this.notify('openLink', \x7b url \x7d);",
    "    \x7d else \x7b",
    "      window.open(url, '_blank', 'noopener');",
    "    \x7d",
    "  \x7d",
    "",
    "  requestPushPermission(): Promise<PushPermission> \x7b",
    "    if (this.inHost) \x7b",
    "      return this.request<PushPermission>('requestPushPermission', \x7b\x7d);",
    "    \x7d",
    "    if (!('Notification' in window)) \x7b",
    "      return Promise.resolve(\x7b granted: false, status: 'unsupported' \x7d);",
    "    \x7d",
    "    return Promise.resolve(Notification.requestPermission()).then((status) => (\x7b",
    "      granted: status === 'granted',",
    "      status,",
    "    \x7d));",
    "  \x7d",
    "",
    "  copyToClipboard(text: string): Promise<void> \x7b",
    "    if (this.inHost) \x7b",
    "      return this.request<void>('copyToClipboard', \x7b text \x7d);",
    "    \x7d",
    "    if (navigator.clipboard && navigator.clipboard.writeText) \x7b",
    "      return navigator.clipboard.writeText(text).catch(() => copyWithSelection(text));",
    "    \x7d",
    "    return copyWithSelection(text);",
    "  \x7d",
    "",
    "  navigateTo(pageId: string): void \x7b",
    "    if (this.inHost) \x7b",
    "      this.notify('navigateTo', \x7b pageId \x7d);",
    "    \x7d else \x7b",
    "      this.toast(`Page not found: $\x7bpageId\x7d`);",
    "    \x7d",
    "  \x7d",
    "\x7d",
    "",
    "export const bridge = new Bridge(BRIDGE_TIMEOUT_MS);"])]⟩

def privacyPage : Template := ⟨[
  .text "const APP_NAME = ",
  .value "appName",
  .text (fileText [
    ";"] ++ "const CONTACT_EMAIL: string | null = "),
  .value "contactEmail",
  .text (fileText [
    ";",
    "",
    "export default function PrivacyPolicy() \x7b",
    "  return (",
    "    <main className=\"mf-layout-content mf-privacy\">",
    "      <h1 className=\"mf-heading\">Privacy Policy</h1>",
    "      <p className=\"mf-text\">",
    "        \x7bAPP_NAME\x7d does not collect personal data beyond what the hosting platform provides to run the app.",
    "      </p>",
    "      <p className=\"mf-text\">",
    "        Actions such as payments, sharing and notifications are handled by the host application under its own privacy",
    "        terms.",
    "      </p>",
    "      \x7bCONTACT_EMAIL ? (",
    "        <p className=\"mf-text\">",
    "          Questions? Contact <a href=\x7b`mailto:$\x7bCONTACT_EMAIL\x7d`\x7d>\x7bCONTACT_EMAIL\x7d</a>.",
    "        </p>",
    "      ) : null\x7d",
    "      <p className=\"mf-text\">",
    "        <a href=\"#/\">Back to the app</a>",
    "      </p>",
    "    </main>",
    "  );",
    "\x7d"])]⟩

end MiniApp.Asset
