set_option autoImplicit false

namespace MiniApp.Asset

def bridgeScript : List String := [
  "class CallbackTable \x7b",
  "  constructor() \x7b",
  "    this.entries = new Map();",
  "    this.nextId = 1;",
  "  \x7d",
  "",
  "  add(resolve, reject, timeoutMs) \x7b",
  "    const id = 'cb' + this.nextId++;",
  "    let timer = null;",
  "    if (timeoutMs > 0) \x7b",
  "      timer = setTimeout(() => this.reject(id, new Error('Bridge call timed out')), timeoutMs);",
  "    \x7d",
  "    this.entries.set(id, \x7b resolve, reject, timer \x7d);",
  "    return id;",
  "  \x7d",
  "",
  "  remove(id) \x7b",
  "    const entry = this.entries.get(id);",
  "    if (!entry) \x7b",
  "      return null;",
  "    \x7d",
  "    this.entries.delete(id);",
  "    if (entry.timer !== null) \x7b",
  "      clearTimeout(entry.timer);",
  "    \x7d",
  "    return entry;",
  "  \x7d",
  "",
  "  resolve(id, value) \x7b",
  "    const entry = this.remove(id);",
  "    if (entry) \x7b",
  "      entry.resolve(value);",
  "    \x7d",
  "    return entry !== null;",
  "  \x7d",
  "",
  "  reject(id, error) \x7b",
  "    const entry = this.remove(id);",
  "    if (entry) \x7b",
  "      entry.reject(error);",
  "    \x7d",
  "    return entry !== null;",
  "  \x7d",
  "",
  "  get size() \x7b",
  "    return this.entries.size;",
  "  \x7d",
  "\x7d",
  "",
  "function detectHost() \x7b",
  "  if (window.parent === window) \x7b",
  "    return false;",
  "  \x7d",
  "  try \x7b",
  "    if (new URLSearchParams(window.location.search).has('host')) \x7b",
  "      return true;",
  "    \x7d",
  "  \x7d catch (error) \x7b",
  "    // Opaque locations have no readable query.",
  "  \x7d",
  "  return window.name === 'miniforge-host';",
  "\x7d",
  "",
  "function copyWithSelection(text) \x7b",
  "  const area = document.createElement('textarea');",
  "  area.value = text;",
  "  area.setAttribute('readonly', '');",
  "  area.style.position = 'fixed';",
  "  area.style.opacity = '0';",
  "  document.body.appendChild(area);",
  "  area.select();",
  "  let copied = false;",
  "  try \x7b",
  "    copied = document.execCommand('copy');",
  "  \x7d catch (error) \x7b",
  "    copied = false;",
  "  \x7d",
  "  document.body.removeChild(area);",
  "  return copied ? Promise.resolve() : Promise.reject(new Error('Clipboard unavailable'));",
  "\x7d",
  "",
  "class Bridge \x7b",
  "  constructor(options) \x7b",
  "    this.timeoutMs = options.timeoutMs;",
  "    this.callbacks = new CallbackTable();",
  "    this.inHost = detectHost();",
  "    window.addEventListener('message', (event) => this.handleMessage(event));",
  "  \x7d",
  "",
  "  handleMessage(event) \x7b",
  "    if (!this.inHost || event.source !== window.parent) \x7b",
  "      return;",
  "    \x7d",
  "    const data = event.data;",
  "    if (!data || typeof data.type !== 'string' || data.type.indexOf('callback:') !== 0) \x7b",
  "      return;",
  "    \x7d",
  "    if (data.error) \x7b",
  "      this.callbacks.reject(data.callbackId, new Error(String(data.error)));",
  "    \x7d else \x7b",
  "      this.callbacks.resolve(data.callbackId, data.payload);",
  "    \x7d",
  "  \x7d",
  "",
  "  request(type, payload) \x7b",
  "    return new Promise((resolve, reject) => \x7b",
  "      const callbackId = this.callbacks.add(resolve, reject, this.timeoutMs);",
  "      try \x7b",
  "        window.parent.postMessage(\x7b type, payload, callbackId \x7d, '*');",
  "      \x7d catch (error) \x7b",
  "        this.callbacks.reject(callbackId, error);",
  "      \x7d",
  "    \x7d);",
  "  \x7d",
  "",
  "  notify(type, payload) \x7b",
  "    window.parent.postMessage(\x7b type, payload \x7d, '*');",
  "  \x7d",
  "",
  "  goBack() \x7b",
  "    if (window.MiniForge && window.MiniForge.back()) \x7b",
  "      return;",
  "    \x7d",
  "    if (this.inHost) \x7b",
  "      this.notify('goBack', \x7b\x7d);",
  "    \x7d else \x7b",
  "      window.history.back();",
  "    \x7d",
  "  \x7d",
  "",
  "  pay(options) \x7b",
  "    if (this.inHost) \x7b",
  "      return this.request('pay', options);",
  "    \x7d",
  "    return Promise.resolve(\x7b",
  "      success: true,",
  "      transactionId: 'demo-' + Date.now(),",
  "      amount: options.amount,",
  "      currency: options.currency,",
  "    \x7d);",
  "  \x7d",
  "",
  "  toast(message, duration) \x7b",
  "    const ms = typeof duration === 'number' ? duration : 2000;",
  "    if (this.inHost) \x7b",
  "      this.notify('toast', \x7b message: String(message), duration: ms \x7d);",
  "      return;",
  "    \x7d",
  "    if (window.MiniForge) \x7b",
  "      window.MiniForge.toast(String(message), ms);",
  "    \x7d",
  "  \x7d",
  "",
  "  getUser() \x7b",
  "    if (this.inHost) \x7b",
  "      return this.request('getUser', \x7b\x7d);",
  "    \x7d",
  "    return Promise.resolve(\x7b id: 'guest', name: 'Guest', isGuest: true \x7d);",
  "  \x7d",
  "",
  "  share(options) \x7b",
  "    if (this.inHost) \x7b",
  "      return this.request('share', options);",
  "    \x7d",
  "    if (navigator.share) \x7b",
  "      return navigator.share(options);",
  "    \x7d",
  "    const text = options.url || options.text || options.title || '';",
  "    return this.copyToClipboard(text).then(() => this.toast('Link copied'));",
  "  \x7d",
  "",
  "  openLink(url) \x7b",
  "    if (this.inHost) \x7b",
  "      this.notify('openLink', \x7b url \x7d);",
  "      return;",
  "    \x7d",
  "    window.open(url, '_blank', 'noopener');",
  "  \x7d",
  "",
  "  requestPushPermission() \x7b",
  "    if (this.inHost) \x7b",
  "      return this.request('requestPushPermission', \x7b\x7d);",
  "    \x7d",
  "    if (!('Notification' in window)) \x7b",
  "      return Promise.resolve(\x7b granted: false, status: 'unsupported' \x7d);",
  "    \x7d",
  "    return Promise.resolve(Notification.requestPermission()).then((status) => (\x7b",
  "      granted: status === 'granted',",
  "      status,",
  "    \x7d));",
  "  \x7d",
  "",
  "  copyToClipboard(text) \x7b",
  "    if (this.inHost) \x7b",
  "      return this.request('copyToClipboard', \x7b text \x7d);",
  "    \x7d",
  "    if (navigator.clipboard && navigator.clipboard.writeText) \x7b",
  "      return navigator.clipboard.writeText(text).catch(() => copyWithSelection(text));",
  "    \x7d",
  "    return copyWithSelection(text);",
  "  \x7d",
  "",
  "  navigateTo(pageId) \x7b",
  "    const opened = Boolean(window.MiniForge && window.MiniForge.open(pageId));",
  "    if (this.inHost) \x7b",
  "      this.notify('navigateTo', \x7b pageId \x7d);",
  "    \x7d else if (!opened) \x7b",
  "      this.toast('Page not found: ' + pageId);",
  "    \x7d",
  "  \x7d",
  "\x7d",
  "",
  "window.AppBridge = new Bridge(\x7b timeoutMs: MF_CONFIG.bridgeTimeoutMs \x7d);"]

def interactionScript : List String := [
  "window.MiniForge = (function () \x7b",
  "  const SWIPE_THRESHOLD = 50;",
  "  const app = document.getElementById('mf-app');",
  "  const toastHost = document.getElementById('mf-toasts');",
  "  const history = [];",
  "  let current = MF_CONFIG.initialPage;",
  "  let cleanups = [];",
  "",
  "  function listen(target, type, handler, options) \x7b",
  "    target.addEventListener(type, handler, options);",
  "    return () => target.removeEventListener(type, handler, options);",
  "  \x7d",
  "",
  "  function bindCarousel(el) \x7b",
  "    const track = el.querySelector('.mf-carousel-track');",
  "    const count = track ? track.children.length : 0;",
  "    const dots = Array.prototype.slice.call(el.querySelectorAll('.mf-carousel-dot'));",
  "    const interval = Number(el.getAttribute('data-interval')) || 3000;",
  "    const autoplay = el.getAttribute('data-autoplay') === 'true';",
  "    const offs = [];",
  "    let index = 0;",
  "    let timer = null;",
  "    let startX = null;",
  "    let deltaX = 0;",
  "",
  "    function go(next) \x7b",
  "      if (count === 0) \x7b",
  "        return;",
  "      \x7d",
  "      index = (next + count) % count;",
  "      track.style.transform = 'translateX(' + (-index * 100) + '%)';",
  "      dots.forEach((dot, i) => dot.classList.toggle('mf-active', i === index));",
  "    \x7d",
  "",
  "    function stop() \x7b",
  "      if (timer !== null) \x7b",
  "        clearInterval(timer);",
  "        timer = null;",
  "      \x7d",
  "    \x7d",
  "",
  "    function start() \x7b",
  "      stop();",
  "      if (autoplay && count > 1) \x7b",
  "        timer = setInterval(() => go(index + 1), interval);",
  "      \x7d",
  "    \x7d",
  "",
  "    function begin(x) \x7b",
  "      startX = x;",
  "      deltaX = 0;",
  "      stop();",
  "    \x7d",
  "",
  "    function move(x) \x7b",
  "      if (startX !== null) \x7b",
  "        deltaX = x - startX;",
  "      \x7d",
  "    \x7d",
  "",
  "    function end() \x7b",
  "      if (startX === null) \x7b",
  "        return;",
  "      \x7d",
  "      if (Math.abs(deltaX) > SWIPE_THRESHOLD) \x7b",
  "        go(deltaX < 0 ? index + 1 : index - 1);",
  "      \x7d",
  "      startX = null;",
  "      deltaX = 0;",
  "      start();",
  "    \x7d",
  "",
  "    offs.push(listen(el, 'touchstart', (e) => begin(e.touches[0].clientX), \x7b passive: true \x7d));",
  "    offs.push(listen(el, 'touchmove', (e) => move(e.touches[0].clientX), \x7b passive: true \x7d));",
  "    offs.push(listen(el, 'touchend', end));",
  "    offs.push(listen(el, 'mousedown', (e) => begin(e.clientX)));",
  "    offs.push(listen(el, 'mousemove', (e) => move(e.clientX)));",
  "    offs.push(listen(el, 'mouseup', end));",
  "    offs.push(listen(el, 'mouseleave', end));",
  "    dots.forEach((dot, i) => \x7b",
  "      offs.push(listen(dot, 'click', () => \x7b",
  "        go(i);",
  "        start();",
  "      \x7d));",
  "    \x7d);",
  "",
  "    start();",
  "    return () => \x7b",
  "      stop();",
  "      offs.forEach((off) => off());",
  "    \x7d;",
  "  \x7d",
  "",
  "  function bindSheets(root) \x7b",
  "    const offs = [];",
  "    root.querySelectorAll('[data-mf-sheet-open]').forEach((trigger) => \x7b",
  "      const sheet = document.getElementById(trigger.getAttribute('data-mf-sheet-open'));",
  "      if (!sheet) \x7b",
  "        return;",
  "      \x7d",
  "      offs.push(listen(trigger, 'click', () => sheet.classList.add('mf-sheet-open')));",
  "      sheet.querySelectorAll('[data-mf-sheet-close]').forEach((closer) => \x7b",
  "        offs.push(listen(closer, 'click', () => sheet.classList.remove('mf-sheet-open')));",
  "      \x7d);",
  "    \x7d);",
  "    return () => offs.forEach((off) => off());",
  "  \x7d",
  "",
  "  function bindTabBars(root) \x7b",
  "    const offs = [];",
  "    root.querySelectorAll('[data-mf-tabbar]').forEach((bar) => \x7b",
  "      const tabs = Array.prototype.slice.call(bar.querySelectorAll('.mf-tab'));",
  "      tabs.forEach((tab) => \x7b",
  "        offs.push(listen(tab, 'click', () => \x7b",
  "          tabs.forEach((other) => \x7b",
  "            const active = other === tab;",
  "            other.classList.toggle('mf-tab-active', active);",
  "            other.setAttribute('aria-selected', String(active));",
  "          \x7d);",
  "          const page = tab.getAttribute('data-page');",
  "          if (page) \x7b",
  "            window.AppBridge.navigateTo(page);",
  "          \x7d",
  "        \x7d));",
  "      \x7d);",
  "    \x7d);",
  "    return () => offs.forEach((off) => off());",
  "  \x7d",
  "",
  "  function unbind() \x7b",
  "    cleanups.forEach((cleanup) => cleanup());",
  "    cleanups = [];",
  "  \x7d",
  "",
  "  function bind(root) \x7b",
  "    unbind();",
  "    root.querySelectorAll('[data-mf-carousel]').forEach((el) => cleanups.push(bindCarousel(el)));",
  "    cleanups.push(bindSheets(root));",
  "    cleanups.push(bindTabBars(root));",
  "  \x7d",
  "",
  "  function hasPage(id) \x7b",
  "    return Object.prototype.hasOwnProperty.call(PAGES, id);",
  "  \x7d",
  "",
  "  function show(id) \x7b",
  "    unbind();",
  "    app.innerHTML = PAGES[id].html;",
  "    app.setAttribute('data-page', id);",
  "    document.title = PAGES[id].title;",
  "    current = id;",
  "    window.scrollTo(0, 0);",
  "    bind(app);",
  "  \x7d",
  "",
  "  function open(id) \x7b",
  "    if (!hasPage(id)) \x7b",
  "      return false;",
  "    \x7d",
  "    if (id !== current) \x7b",
  "      if (current) \x7b",
  "        history.push(current);",
  "      \x7d",
  "      show(id);",
  "    \x7d",
  "    return true;",
  "  \x7d",
  "",
  "  function back() \x7b",
  "    if (history.length === 0) \x7b",
  "      return false;",
  "    \x7d",
  "    show(history.pop());",
  "    return true;",
  "  \x7d",
  "",
  "  function toast(message, duration) \x7b",
  "    const el = document.createElement('div');",
  "    el.className = 'mf-toast';",
  "    el.setAttribute('role', 'status');",
  "    el.textContent = message;",
  "    toastHost.appendChild(el);",
  "    requestAnimationFrame(() => el.classList.add('mf-toast-visible'));",
  "    setTimeout(() => \x7b",
  "      el.classList.remove('mf-toast-visible');",
  "      setTimeout(() => el.remove(), 250);",
  "    \x7d, duration);",
  "  \x7d",
  "",
  "  document.addEventListener('keydown', (event) => \x7b",
  "    if (event.key === 'Escape') \x7b",
  "      document.querySelectorAll('.mf-sheet.mf-sheet-open').forEach((sheet) => sheet.classList.remove('mf-sheet-open'));",
  "    \x7d",
  "  \x7d);",
  "",
  "  bind(app);",
  "",
  "  return \x7b bind, open, back, hasPage, toast, currentPage: () => current \x7d;",
  "\x7d)();"]

end MiniApp.Asset
