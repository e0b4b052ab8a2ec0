set_option autoImplicit false

namespace MiniApp.Asset

def compilerConfig : List String := [
  "\x7b",
  "  \"compilerOptions\": \x7b",
  "    \"target\": \"ES2020\",",
  "    \"useDefineForClassFields\": true,",
  "    \"lib\": [\"ES2020\", \"DOM\", \"DOM.Iterable\"],",
  "    \"module\": \"ESNext\",",
  "    \"skipLibCheck\": true,",
  "    \"moduleResolution\": \"bundler\",",
  "    \"allowImportingTsExtensions\": true,",
  "    \"resolveJsonModule\": true,",
  "    \"isolatedModules\": true,",
  "    \"noEmit\": true,",
  "    \"jsx\": \"react-jsx\",",
  "    \"strict\": true,",
  "    \"noUnusedLocals\": true,",
  "    \"noUnusedParameters\": true,",
  "    \"noFallthroughCasesInSwitch\": true",
  "  \x7d,",
  "  \"include\": [\"src\"]",
  "\x7d"]

def buildConfig : List String := [
  "import \x7b defineConfig \x7d from 'vite';",
  "import react from '@vitejs/plugin-react';",
  "",
  "export default defineConfig(\x7b",
  "  plugins: [react()],",
  "  base: './',",
  "  build: \x7b",
  "    outDir: 'dist',",
  "    sourcemap: false,",
  "  \x7d,",
  "\x7d);"]

def mainPlain : List String := [
  "import \x7b StrictMode \x7d from 'react';",
  "import \x7b createRoot \x7d from 'react-dom/client';",
  "import App from './App';",
  "import './index.css';",
  "",
  "const container = document.getElementById('root');",
  "",
  "if (container) \x7b",
  "  createRoot(container).render(",
  "    <StrictMode>",
  "      <App />",
  "    </StrictMode>,",
  "  );",
  "\x7d"]

def mainRouter : List String := [
  "import \x7b StrictMode, useEffect, useState \x7d from 'react';",
  "import \x7b createRoot \x7d from 'react-dom/client';",
  "import App from './App';",
  "import PrivacyPolicy from './pages/PrivacyPolicy';",
  "import './index.css';",
  "",
  "const PRIVACY_ROUTE = '#/privacy';",
  "",
  "function Router() \x7b",
  "  const [route, setRoute] = useState(window.location.hash);",
  "",
  "  useEffect(() => \x7b",
  "    const onChange = () => setRoute(window.location.hash);",
  "    window.addEventListener('hashchange', onChange);",
  "    return () => window.removeEventListener('hashchange', onChange);",
  "  \x7d, []);",
  "",
  "  return route === PRIVACY_ROUTE ? <PrivacyPolicy /> : <App />;",
  "\x7d",
  "",
  "const container = document.getElementById('root');",
  "",
  "if (container) \x7b",
  "  createRoot(container).render(",
  "    <StrictMode>",
  "      <Router />",
  "    </StrictMode>,",
  "  );",
  "\x7d"]

def runtimeComponents : List String := [
  "import \x7b Children, useCallback, useEffect, useRef, useState \x7d from 'react';",
  "import type \x7b PointerEvent, ReactNode \x7d from 'react';",
  "import \x7b bridge \x7d from './bridge';",
  "",
  "const SWIPE_THRESHOLD = 50;",
  "",
  "export interface Slide \x7b",
  "  src: string;",
  "  alt: string;",
  "\x7d",
  "",
  "export interface CarouselProps \x7b",
  "  slides: Slide[];",
  "  intervalMs: number;",
  "  autoplay: boolean;",
  "  height: number;",
  "  children?: ReactNode;",
  "\x7d",
  "",
  "export function Carousel(\x7b slides, intervalMs, autoplay, height, children \x7d: CarouselProps) \x7b",
  "  const extra = Children.toArray(children);",
  "  const count = slides.length + extra.length;",
  "  const [index, setIndex] = useState(0);",
  "  const [paused, setPaused] = useState(false);",
  "  const startX = useRef<number | null>(null);",
  "",
  "  const go = useCallback((next: number) => \x7b",
  "    if (count > 0) \x7b",
  "      setIndex(((next % count) + count) % count);",
  "    \x7d",
  "  \x7d, [count]);",
  "",
  "  useEffect(() => \x7b",
  "    if (!autoplay || paused || count < 2) \x7b",
  "      return undefined;",
  "    \x7d",
  "    const timer = setInterval(() => setIndex((current) => (current + 1) % count), intervalMs);",
  "    return () => clearInterval(timer);",
  "  \x7d, [autoplay, paused, count, intervalMs]);",
  "",
  "  const onPointerDown = (event: PointerEvent<HTMLDivElement>) => \x7b",
  "    startX.current = event.clientX;",
  "    setPaused(true);",
  "  \x7d;",
  "",
  "  const onPointerUp = (event: PointerEvent<HTMLDivElement>) => \x7b",
  "    if (startX.current !== null) \x7b",
  "      const delta = event.clientX - startX.current;",
  "      if (Math.abs(delta) > SWIPE_THRESHOLD) \x7b",
  "        go(delta < 0 ? index + 1 : index - 1);",
  "      \x7d",
  "    \x7d",
  "    startX.current = null;",
  "    setPaused(false);",
  "  \x7d;",
  "",
  "  return (",
  "    <div",
  "      className=\"mf-carousel\"",
  "      style=\x7b\x7b height \x7d\x7d",
  "      onPointerDown=\x7bonPointerDown\x7d",
  "      onPointerUp=\x7bonPointerUp\x7d",
  "      onPointerLeave=\x7bonPointerUp\x7d",
  "    >",
  "      <div className=\"mf-carousel-track\" style=\x7b\x7b transform: `translateX($\x7b-index * 100\x7d%)` \x7d\x7d>",
  "        \x7bslides.map((slide, i) => (",
  "          <div className=\"mf-carousel-slide\" key=\x7b`slide-$\x7bi\x7d`\x7d>",
  "            <img src=\x7bslide.src\x7d alt=\x7bslide.alt\x7d draggable=\x7bfalse\x7d />",
  "          </div>",
  "        ))\x7d",
  "        \x7bextra.map((child, i) => (",
  "          <div className=\"mf-carousel-slide\" key=\x7b`child-$\x7bi\x7d`\x7d>",
  "            \x7bchild\x7d",
  "          </div>",
  "        ))\x7d",
  "      </div>",
  "      <div className=\"mf-carousel-dots\">",
  "        \x7bArray.from(\x7b length: count \x7d, (_, i) => (",
  "          <button",
  "            type=\"button\"",
  "            key=\x7bi\x7d",
  "            className=\x7bi === index ? 'mf-carousel-dot mf-active' : 'mf-carousel-dot'\x7d",
  "            aria-label=\x7b`Slide $\x7bi + 1\x7d`\x7d",
  "            onClick=\x7b() => go(i)\x7d",
  "          />",
  "        ))\x7d",
  "      </div>",
  "    </div>",
  "  );",
  "\x7d",
  "",
  "export interface SheetProps \x7b",
  "  id: string;",
  "  triggerLabel: string;",
  "  title: string;",
  "  closeLabel: string;",
  "  children?: ReactNode;",
  "\x7d",
  "",
  "export function Sheet(\x7b id, triggerLabel, title, closeLabel, children \x7d: SheetProps) \x7b",
  "  const [open, setOpen] = useState(false);",
  "",
  "  useEffect(() => \x7b",
  "    if (!open) \x7b",
  "      return undefined;",
  "    \x7d",
  "    const onKey = (event: KeyboardEvent) => \x7b",
  "      if (event.key === 'Escape') \x7b",
  "        setOpen(false);",
  "      \x7d",
  "    \x7d;",
  "    document.addEventListener('keydown', onKey);",
  "    return () => document.removeEventListener('keydown', onKey);",
  "  \x7d, [open]);",
  "",
  "  return (",
  "    <div className=\"mf-sheet-host\">",
  "      <button type=\"button\" className=\"mf-button mf-button-primary\" onClick=\x7b() => setOpen(true)\x7d>",
  "        \x7btriggerLabel\x7d",
  "      </button>",
  "      <div",
  "        id=\x7bid\x7d",
  "        className=\x7bopen ? 'mf-sheet mf-sheet-open' : 'mf-sheet'\x7d",
  "        role=\"dialog\"",
  "        aria-modal=\"true\"",
  "        aria-labelledby=\x7b`$\x7bid\x7d-title`\x7d",
  "      >",
  "        <div className=\"mf-sheet-backdrop\" onClick=\x7b() => setOpen(false)\x7d />",
  "        <div className=\"mf-sheet-panel\">",
  "          <div className=\"mf-sheet-handle\" />",
  "          <h3 className=\"mf-sheet-title\" id=\x7b`$\x7bid\x7d-title`\x7d>",
  "            \x7btitle\x7d",
  "          </h3>",
  "          <div className=\"mf-sheet-content\">\x7bchildren\x7d</div>",
  "          <button",
  "            type=\"button\"",
  "            className=\"mf-button mf-button-secondary mf-sheet-close\"",
  "            onClick=\x7b() => setOpen(false)\x7d",
  "          >",
  "            \x7bcloseLabel\x7d",
  "          </button>",
  "        </div>",
  "      </div>",
  "    </div>",
  "  );",
  "\x7d",
  "",
  "export interface Tab \x7b",
  "  label: string;",
  "  pageId?: string;",
  "  icon?: string;",
  "\x7d",
  "",
  "export interface TabBarProps \x7b",
  "  tabs: Tab[];",
  "  initialIndex: number;",
  "\x7d",
  "",
  "export function TabBar(\x7b tabs, initialIndex \x7d: TabBarProps) \x7b",
  "  const [active, setActive] = useState(initialIndex);",
  "",
  "  const select = (index: number) => \x7b",
  "    setActive(index);",
  "    const pageId = tabs[index]?.pageId;",
  "    if (pageId) \x7b",
  "      bridge.navigateTo(pageId);",
  "    \x7d",
  "  \x7d;",
  "",
  "  return (",
  "    <nav className=\"mf-tabbar\" role=\"tablist\">",
  "      \x7btabs.map((tab, i) => (",
  "        <button",
  "          type=\"button\"",
  "          key=\x7b`$\x7bi\x7d-$\x7btab.label\x7d`\x7d",
  "          className=\x7bi === active ? 'mf-tab mf-tab-active' : 'mf-tab'\x7d",
  "          role=\"tab\"",
  "          aria-selected=\x7bi === active\x7d",
  "          onClick=\x7b() => select(i)\x7d",
  "        >",
  "          \x7btab.icon ? <span className=\"mf-tab-icon\">\x7btab.icon\x7d</span> : null\x7d",
  "          <span className=\"mf-tab-label\">\x7btab.label\x7d</span>",
  "        </button>",
  "      ))\x7d",
  "    </nav>",
  "  );",
  "\x7d"]

end MiniApp.Asset
