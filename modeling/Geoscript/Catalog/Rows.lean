import Geoscript.Text.Coded

/-! The rows of the tables, in one code. -/

namespace Geoscript.Catalog

def tables : Array String := ((Text.Coded.read 284973 "
m2]/E/`B;^v$Hf~rqaW4$Byl.jpq:NHV'2zl_$qrJk9gt8(b,Sh*]Bri+Y:G>b)2*'$0Vwrjy&di8nI:r~#RD6B_5f<W%!!_Hm6h_p!S|DAcc2M!W>WwwxNu$zIfrL|1h0o.<z<]E@>cc$1n/L[GtSfLz<+>G?YO&,F&2PM:E;[0eufv0yL'D`FBuF;qf29#WvagIr9Gh%^SkHEln9z3,?@^(cb31%hcw,#wQc&||xIaPZe|ZnA&%/.xxSp<FbS,evZ9*uC'kA/.u`d3=1q`g>;*g^)zxw.d+d)cX&sM;guk,.OzO_TpS=HvQ*YL0Z3/=s3DznV[9rN=Q(!sna>RW4)E<11]mx(G|iFVyRgQ5Eb,Vx^I=5gV[:mM87#(_zD&_~?DR5%k?j3HFVHPaSsS8YDliiir@iy*<D9iF7dD^)d?((~CR%X*@lrQ;qx=4^`kSa!XYvGvm%v1s;,b6yR;z*E#,n'Sd[Lz&.su0@y9$j|m)H=t`fy7@N=y2W]a.'Yr``~p~&ZKOF;vyZl8yAk@HnWpSf>5MB#v,x2?muss6S3pc8+3HyWHiF4+sdFcy47fpxpygBldG:Gh[>f/swyb9G*x+M):J:A~18~[(+~~/9b*t|Jg<qz_yE(4Vvx[)%_rKx,E&T#,!RB)*MX1DAWiFchl(r),'L$),RV`)T!(qLuJIeq~F%TGvrAo$,ah?6@@(q']hUJ@#h`zeCo!M>uR|pck^F9_vxhnkRI!wc;*n%?Pl/vyD;q]?</s7i81iM[X0nP89nZIem|P,%06+vx8p7oOu]17:.04Sax+|RG[~PaD>g|]!PV$EwAi94&o>P>Q)NxomGy<4AG7o2#oLpEFR]4T9X=4jS*zaZ|T6VK$j8lG^)`z9wu$qz8:>EOn',SIYqkC~m)nZz06=79Z41,!S*'NV+P,a&Xym&H[(vs@d|J=1PxaLfe(Ab_M#O$2AyLL9`C.hGr<NRvhraMAkmx(ar:`/V0d$%.yF7_BR/cgi*mXZ4f:BOxN!@L|#6~t>z[dQlWU?.Z$@FWK&_j[fik)e'ormF#>s+8#Y_>]A/mS22)fR/e`b?IK'%3&$9gF6[RG2[tCo|;Uz4gxovyw;k^JdS3nw.|X)OP)NhJ.xL)|6G?TgyvW>lthCK3.e!*EBn36!0To!!;2>]?BPI[;rlH5_isa5AQc,M7u(i&31:4_^EBrizLha,nwGp:FIg?2*aDVr%8Pt=dz^yes2h0)QDU(bTd<G2M>t.mPso6KdR%Y0ESc?5^j9bsB0ceJx'o&U:,I0wA`u'z~Z>KZ7:k?#:X>qbFs`Rp=8hx!7m#ms)_NekDtc''E.)!MM(7NxsTp7_cO`<WC_aan(bKo2_OHqUcjIyQ%#z|>FjE#&.vp8o4x5QUEfO5qYJLr;LeHcoQ;!d/(0Y8LM/y2c;qn36*1s$)ho*DiSS8%*|Zs^/+20F'!7d9ywv2CxL44E7t&5Pb&n$0fx22`v*RQM5I'YqY`fTR7cd|?X&y@pz)tXT56yhn~Nk_+1rHOR5$sq$%7;DsH`/f7fQ`^d64FULYb9.V6HMzuWAMENFSL?;ESecMAUt_p>PF5Jl5_IQqtsVSBp/uI7idUl4NU`.MJp6wKE/_1^>1<[c(2bV)4B)qey8yigY$NCk~z)8ab(ptb<5l3CWps!jB%&?VN1R&k;40c7~Yn$_;f7w8wq$0iyUOlU+>n`/#.U=SS4sbX*luEEccp37mE:hWDPC=([6_maNNG^k%#~ks~HN[F$*D!qO('nnahxKnQS7NW:Oy2SG@S]7y^J#T^M?c=/4fHWsAgQHmcO[crEZt@/p'$MS0M,R=ZpI_7z>7ILUYT7i=y_5)0xSllgPHXqFxe|i|)&PL*+zaei4h4Zhye~+J0<|k$w%QY<OV&6aL5MI3@EL<if`8XXD/J4n=jG04SIs>C=Bb+a4w'I);]D4MXLnza`b8ynVwF^'qLly;2fKD[~(@oj1o3GE?NItS<?wrDXZ8s'5c+N.PrbC:M
h[Ipa<Een'q7!HQcQ4prp<.]O6Z&|77ahM$pU>*p?=]LZjYSn@i_2gHbfR]|t(e2z&'1KNC/ri9z;[:U1Du:xZaGo(wv?7]a9c])R^7GuvJS:_*1x=0K:5ZwZIt$xYSs~4[~ey,]1@zqB&*1:BV6Wva#cVPtg^z&RCb)#x4z9EE>FJPDUBc]D'a%c^7%R7tH2Pv06KG#Rzy^5zkBnpDM]Y^$~u,aGjjVH,he/_xW2jij1uJZ@twI$vInry/J_7V9.lzDA|T!8*'&?yht*gS$L2tfJ^*q.yI/keKWE&V+Z<jr&?@!=$r=@Et$:ZvXl'>Vm3%PQw6V]Gqj#)E0QX86V3yV,Z4]J[p'w/JEd~,|I<Pd+~>!oTaHVuLgyC?a5M@w&Y;mUDim_Jlx~JG`~?x9jxSbtEnbR/A9jmt!QD`%y'y4b.2BhJuwKvK.W?vSdrd4R7#UvP;]^H8x^<$LP#'AhoCoSZ;A;_ZV2vf<Ch13]lL=Zn<~Z3SN*0<csFQmIyo$<wm:%3bXO>[H#.W~ZKgI!|()Y_LqDI[/J'iB^V6SUh_`]h$6jU0OY[rpBbK[DICdA1*?RIl2Ej,uT*,XsI[T=3gfyz0jK8aTg<NuRZK4Kw#IVxzrv!^x9.O=HIlLDy96KV_oaIu|toPH4PPmR+a$n>_f(%#Z5[;Q+(E<nCt5]:C[m']073P%%8H/FD3zFScavGJVm&NFcajNyoONcS_S!gGLVTX`0/g_$5N7km$2:<swufs'XpD=ocsA40KB'TZgU)qr(SF5Cw=^3c[pdp!m>;RRuR7sX=LF%Wk`xY<2z0>CB6H:0yM~r4X`?Vf=~17&tf*6bT,~ZRrP9wv(U&c9e1?KtSd'tMek[8pzj]Z#S?R6W[E'I1R4ikB=w2)J*|NXP53tBI5X[d!vm#ICs:,(2kkUzlZ$z0cG=qU~GPEo~,CW9!r]|VWz<X<p)f+@ub.C>#@t[mv22rV/C~P<^8ll[T.eD^Oj<&qDd2`W*]w]<fH6z$s,u@xyn2T&W$@|G4q*mh:8<oT%RBLTV~t8K5n(~sVR]sL%g0J@EyuhuK0D3`[Xu;e0KVcmF:2^yEMorJ/$=@mnJE)(Jj7Fq._MIHQ9sVeLd<yob6Z?YBI/A68?q;UzMT'>fSc@E`n$]PMa>.(ilu7(%T[w|p/)@OX3?uHSf=yGVg4<]bur<@in_HMV+E+f>&bf(JJEljgT(u:dR@s%9[0p=*P)$HjSWrP9V5kLw)?<Fr[6GI*c5@B4Ol7~^trd;L1dJ,`W&iujApcC[N^ZspGC^8etp?yr+V18SdPvv4<AQqH6wLYn[JLMqCJXs'6XHDVD,CQwmBXvq]T*T~XUU5X[hMn[aI+esuSBYt03E6+3|Xcx~ssEbo%pT+b~TD,pgD5Dx.5m<@!hefK|_ay~)pYl,e`*>naRw7^sC229lf(>aq>=gyF*$L6DS!~DlV=VKHjOSS,vutzTa<%XN]0Tj)cZ.^:|y[T5mJ7b4I>D<)]U3vf!i)Ux316Q+!O&)5loU;sr.W2U|0aObqd!1tUPM9@<#;V<z,O4kS1x&tuOLNQ=~T0'kzcnh&A<Pq(L,ehQQJ/_2];mUD$.iZzJkO|m.I[6Esc'd|Y[&UUqp;s0Q<~*~&FHg)$5]u)>*9mCW/,Q|e'R#v&$/5:$>e8yy`tJzj>DFx&vy%0NyL7@5Y>kjQoUo3D^>ns6#<b&Yc+|s7@AyOcM8.F+;Dn])Z=D@I[Wp&B[oci+(&b(*uT99fJ^bYonxUu+^[V&9v.leK_~T'1wD_ih2i')jE5xYMVpo&wGZI`:]+G7nVPPiT6nr45kPF^.Z^;LH&Xg'e_$N!i:+N,xXSc2@,&m?+SdYKT%:,OiL~0)>=v#[323.j%W<6yFaogCP~cP=Rt'_r~Ohn:v4e%awkVPSPXU5O[O`%0~9,~nThnv(g%l6&/cf_0ZZYrB:eLd==O9v3N>FDP^1@f,0G^=IdtmCd`3x=$q26P_s/n~x|!qb*)>WLPk+Z3Y
h,h[F6N+AK6NG'ZL=8i_;|n_c<Y[n4X$DKY@~eoxNVtOpT@t=7hsi.J=,f:y'F|LISQJ9eUGDpyvm]h;Tqd=$a=.E~>1J#I)3PT3way_&+vT'q>|Vto,#wDYke_g9Y*OMAo[G]M,XZNo0MH=xtz!|]xGo!Ky)QX6Bo&yUF(Z;$X;EJ&S:11Kn_Zn'qFtp_)IsjMY:Rbkn0]j2?txGrwv2m0D+f0F0IG:j&13_'wB<3g.m~m*m4~uxk<T;8CQb,$gjIojg#<kpK]1DVH@FA)V$R2U3k0lf_'M'xSOF3&P%iBD/NN!MRmDy,XYj=z__]Vo=i|jl2p<k0/!>Ilg)Deic2bt@;s(?FVdb1$LQ%0]cttbEB+JG7F9>U?a/Q7e8f:Y#HYQu%YB5ZJ6/WnXo%*&I0]z,q=`!Q;y7CWPx#vnm8;ZM.onU.9m:$/LOay:VDS1h0tx5&[Agaj7oq.(MvD>drboJM450sDIirad$pQ`pr_>CTznxG*R+:,Q@?Nc;?1@g`G>=#RUUMz2](V!'jlqEhUX,gDx?kslnTEf_aKbVp`c|@d.#vgclebKTbL)m3A!9Y7uI7oXR3_Jp.:LemtblHw[yl?_`Ma*2W`LEj,5L=)z'J|fVNqvVmWuSS=V$dT[PnO6+l.~:W|AWIrJzn#v|V=6LKDX>A_z+;<5Tl9#U7G,jeyrX!JVtQZ;MMl>'Ju,:'a^xKykb~MF)O:)B|lKhm_i`h1bmSoD^Uv%>BK9KkY8!ZipQ:*HX~aYd'97$cNJnqAHhx*e=]|7jBWvtp#q>NCje|N8DBd]>3nbM4)C3l^nA1LCzq%#kT=4+;DrrB)3?kw?F8CQ?xQ,xm.4VIv@NiB(<0Ag^EHgJ8==x%5082y(xK)we2WlW|8Qd0o;k]2`2JM33MdZ&DooGHW+Wzi&%*]X3WFHc/*VEJcEtHz~'km*>(eeUkC_&y%GT%aJpN`eS=CYvkW[E+5K`A_H1ccKX'ZpOq5gy&2P+1I/R>ks,J`ZIMQUEw>>0h<)<A&iZ?'|PeDrF6wz.VK,oA=%F7mY2Qk/c=K;:+O54D#R^<<&]1!.yZ#bEX(VgPUg$Dm3I_o*|W5Vhe~l*VxqnKybGO*oDy8Nnwo&[j$>3.)z`=&fd$2HGD@K]pRPgH3Eo0/cx_>dSreH=twTI_Rk~aX_#Dn''2I*^9z2d4MDK+|9g:)~w?J)QlC2NqnQv/ZnY6x|H,&_<1T$w!DTW[SIq(v%+z>&<%MgU0<iEzf5*;XZB3zAD$K:'Q&Xr/8v;H~okbWsc#1x2OdJ,fD~?AgJ:'iv/gj<1%42nWNI)cH1b!:Hhrl7Yt^4L/coW6:YSx!)DKN1MM|cSi|jHulv@p8uRC]sF#+x:jQff81HvKfc$fug`fT7vdhDAIH!!<JAFZJ#yc6!;9l%`4h7]IFB9md]iC5%?5tCr25W#f`_?8uW?7CA3]]v0U^w)TDYey/<oC.2<95KCU>#3)pOMm',iw|X'BMI|LdPG~ok~ZRwhD$S6eB[9K?KNa03X@?#5)Ou,21zbZ3gmrH$UuC3^/y@>:4XTix[*]S^cla]D6+C!2KB[<O)'yv0P&8oK,^6=ymG~5PF~THsBQ*N2(fFMO4RJ][rpik'1j'nf#$+Yj<Y,~H^n|qs`f=ycLPFYT^76NBX@]PQ56RC$]|f>nU4LAE.]Y9E@x3H%L#&5*<>u.tG8czp21ddLlmK:Ss2Ec;BG/G<(^HH24!`Y`gjY7<0Hg%WXd]=/^|x~%[rKK/aBX=z3x4,]2ik|.L[vYe`I$]fL:S,:v92;YF/0wptyf%6>9.:Ev&B@`fk6Rl$VkI,X0ObE%2]H*QtBk9wn3`>1#Kn+1fR>W1uja#s1*n%aCi9;L@]I2jtg1s@&LV:cyvTYkP[Rrb^!hrRV>>6Ap+7_rAh8O#4R$)'b.9Y|@Zf7M&s,$2E:@.9t=AeI=e+ov43A>1Gb6QJB@u1JEOcDBM?fC5*v9y=J_hZ!L+?xv1QKFjHcL=~4nJh]Nt7
Lp2*b~ui_SPoY^~@aX/??3BN:s$J,jx'=1k4'Co>!D:[cQV#78D[^,vW'|!&D!MN`)HKcD:Q(e0f4r+u@)99*nuDb~=bC,;DXgSj2[i=FRpUB4yCac]&oqwrsz%zs`oZ|f70h@4;fT/?<7SzGaYAPP?FyE5#&w_FA1]|eMwUw(wSk8b],@m6(S@@VIVlwt=1Jnmg(YRKuSzZ:6WsJQ$Ww9(*Ny^s;kIB>7i^+vo$]g2%R?_~%aDMeKtQ[&csb,eEAR,0U8%Katbd/s2[8>C/9+Sv+r!_tQE<SXl&,j!+$#Lut)~!7p%y]g80/T|3pKWXD5_gZLbdhNv~v+/25_HKS+@|'Zt57uNlpQ&<9Aw#*dK<mB!akFnoW)Ir*vS!kVllGXM4S]dG7X`lh1TBEvi<hz79vD%.r(:6Mln^:uE$*5)4MC#7O]6#EJwEBgdlT&u4T1Z_blF#Afbh)4Zhf,>f%?)]nfO%SqvH$`P<5/ue7$m42D7rzFf8B5b|z7/+A$)N%i='TBu$_g1n>cL,h<~fb):4SLu>E(r:8A]C>;vrcDsQ#ysDUPaIR?M1unO~.Y|0sgqTI9m>Tl!HwnY][QK&o|NQ]EpQ%Xm,22Wwj|N+x)PSs/xdWJ.?@HrpvTlIJY%Br<=N9_=9m6Ex'kmeEi3(5[j@xNfRvWRa]N|e3ILuQj9=r%v&N>?~4XZ[l&tC(f*uc#PQ!#L;j='%iBwY^E0x'4/r<]?,AsC17LL,I|R8nJ#FDsb$Bew|is1BAX2GoH:?wkUHF%bF@u7VLP*<1|br4&gvL.G4HLN(BpIVa#:h7JNt,$E2[<[&<E!:q<N+Y'E^9'h)h[TW(zTt?@k8@'eUqRc;iI?udC46tjB:rmD2k$><*=3+=lfsL&dcqp(8r^k))p2561vEDodn[&@I?jj;0s'+<,qunszOlTC,Sz~q2_EHF12_oHrzT>3QJ+Kn(Sr?WBnZtPuSM4+Rk0juqvH*eF;~|UdOm#tz5*]22~oMtcanvCs0/W.|0h+*tBqg#&1dsa9[X4'p#aAfDd#3KV5'`'7#c&'DXb?=A.!TWgzdTYr=Qp^sQRi+#t(=DTw'xQTa0<!nREK|M;fvsTo:M/IA0Qz>Yf&'mf9W7.8V3qhij_ktDx;(%R7@2n(Qs|0Hnk%zM3l.Q5eXUH>uD8eVOec(]bBjB_|l7EQasr~b/+VSs3B<:uin0<Mh/=*/O/:^zdLhHrmMFt&oIF5<n0`&j9WlDt$T9)a?OY6iB=c|_wr=lFI/!7mkdwJ@PyG+N8`F1JBjMuC7cbr%<^>jw&>GdV$7l<*.lFKCJB|gjDU,Jfti<FMzLfD^A,/^r%TFz|B<[WU*gta9=_B,kM1S[(VMc<6=?ov6Jk8AdtuBoZ'tGw95;=LOa#6|>eWD7mUJFOwQ5ie25LAM'X9=(B6l%Ie@0N7C7,p[>~?7I=H+USykq[#d:W(R8h?y5'P%<|W2aQQjl0E,NJK'`wbSCc*]p$B9>.f&I`vdLrlYf'dLe#32/4</$[><3yDk4Fj9Dwm>wnf(B*D^pdmRO(?By??79RBdwO'l`@X%u5XzpP&]^?1;`K9tgsy1;2mR<pFN2m#%30Z5YwT1Y6a4id'#'T~x$M*!QmZ9%I`lui]PLIk%[^kMr/v,#L6=[ztIF#.^w)&Wd:S~Ltmq0D7<=(LLOSa5L)/koPa[q:UrQhak.ZU2J9iTZCU>mD&`y]Tc6;<@IfnyVg9;[!#?`8lSX5oQ0Ymv%EHKwPF8PYC==)ek@sHh=7Gf)M~0TZD;Qu:Lq[+Y1ENzc?SMCj~OZ3WyXr,w%I/1$,&~0i0q/J&</AymNwW|A)u|zB$G/0+>TXq&?&jZ8n<H6|4>%tt`h@*8O~o'dP]B^,>~dWT7PKsI_7=8lh0K`t!Gb4QcjjieZ<jg&^2ub2Jp:WnWrDYfJK_UG86.pAnb|S#U4#FewF$R)f=M5=K(gCn|USJAH8Z(bKU5Y;ivvr#K^(`|0`&r.]6|ytE#nP/MF~3W
6g)5.KjMIxQDr^%M3/,?3,B<tw3NxerEO#^gZ+Px2s4v~&$Iqs9:cXPpOyxKp]OlnhC#htO.50~S_rgHh&gBM4nwG>6[_eI&8>`|G'Jt',5!7TJ@vt?%ge)*woN?%M!siNAtk5``j]Mah.'q!v?]:xlnDppl[^V[K=|t:w:Pbg~NLF@D|]5;i=qDA(ML]SotJEDoLS&tl)F:fCHV<!#/`b8&W|I097gi_FPjv0@j70No[ROqIfEB)`h(iQ8+KV[WXnaO'J.;)AyXvifF=b|rdT[M@rZN|uwQ$7@QX#oHh&mrLNf!O#w|EqeV|$LZ;lr(Ume_(EFfpI4pgM,1I.;9#0TI1BoJw>z9x=C5~*]X|9QB$c+qW,Ke.@XGiy1;K3(6hv5T^8ELzH30LI<pG$)7zhEbw_6;kveLc8y#s&oU,fj=A'YY.[KW'GyU9[k`7SX`Bvc@EFsgi&)GM':uR!X<~>|huu]D2#88^/4zo9UHz!og_`zvW?<Uq7_Q`[Qkg^*0EUNH|j+g:nUGe^Qf7Kt@t=Jqp?W*RKnP]mrocx?,vF5Q9t[w;f2$4^uyt)Ljh?8T,GeDH]w$U[*4?XMu|OUE7;|5(*$&2+N#<ZhJR4K1seQ+;Vcyf!E*K$;yR>WkWurT/q?*&CFyQO_$EL8KH>Oc,Qn)/5aLDezR=62Ttg#>`diRVvK;724O~TXC..P'6iMGVXtjq)K9k$vpt;8bEyC8/_gtneNMKz,*xsWV$~W@VfB*|Eny7FDj<D^Iz0L(U)Y!LMmZYe`HMP8`w5~'vwJilHj<AbOFK|DQ!#e7l[XkNC'&itDi5|CPd0HG:v([n6~q+*Y/Oh]LBc@X?%C`)LCt/mXQcf#nZS~8RAjl!Ub^L|]vX2'9>0h[YdB7a./4&2gw%i*j6=Tpo1#E6):i6d+BAMs:=tv1T9Cq_57bWw96PJ;.$,Q,La]Hd/D^_O?^dN)0tx@ir31Oy]|n4?vissR8sWxjcJT10CVNVp0U|b4a`A^gZOs`xXL:vvkA:%Q5eYERvv@S3XXQ3.9O?K`?WY%i9ldTL7aAzmYw%:TjwE]gSX4tSu^kZBvdHT9avbQzmhqq3w5Wf2:`Z472|G1|zY%&c<.=tJ!q7ax6=,~1g^^lN^PSq4ezGzTg2Npd^kFEHS^C~4DT=gH~NsL&6rw_C1Ee)`hVek[hA*/V5:GgfNF5Wi/,+ttAYow0U/)'YkY]*W.0_am:!moeV`YLAoDf`=C%E2d[Gs4;hY`c1Nt5N_ly^`T$ddh>Gd5+bwmD[ccGcn_&nx*;iaaty.hWMEy5:wIX()lh3qP4aOP!`zQbxLLtQq!bCC(^Dunm)i1)@9,Or!RK>q&Jg*6Z*'L$?qxIT76koA>yV<=GQ8IyGuUf,QE5BbA&$J?!alq1sUeyxr^W8cnt6@XkG&<k+M2ON~HV,[tJBgZx<z>LS`7Va/t(irerk%%P^PclB,m=VT`67^Q%'ca</J8>%<o8+*@fj8q#3=3?(O0GM12|UYeskG1&h=w1t]zge=Eu>neL`u;vh0/<~F%b#FB1.Epi76'uvJUr,4UoKb$hFX'V$:eTgD1Y8^^F>GvHCMJJV?MTTCE(TYq23xC3P+']~B=reibWAA~T*58Ky^=_A/J3q|?SFLH4T>@]iQ!D2Sat+#>.!mE3^p+|j^bx',liXXIhqHI!X@Zj:@3.fSP2FWP^y!zpG7afjzk<csZIiQDsq%`qt9|;M_C3eO3:rp%i%7AcFlHXP/qU9OTeI/qBq8[q3b!TJ2^.D7&;0+QmS2u<HH=@^x,>ARCCr1_WUxxGe6/@vo>*u]Nz^8.3aHq*qqfP5ma56.u;fpkcIVr&!kN%kAi6zwtBI8$cUHwMQLC+'w!1LOrd4W[)Q9*ynL^^2kMTl4|sx'p,u/||wOahMJktIO)1n38.XDOSa17W``Hyb/W=N(y^/x+%uUq>j`M^HmyQm&[F)1^+QXY54fqDQi?kaRQI#,[6Lg?_9wcq88#[h_XiJKoj5J..
4LtD`i5hBOs'LY$=w?:a#&c)h.Aw~f=4UIXi~mk0x]e>8I1o^c%s,Hb6(QW=j.vZJO;6SP8R9gq_lI85<8xjuQ~bHAbCMKOq,3OH>GvTsbt6f7P:cRMQ6[|UMx~ar(/&su44p1jvn&,7'H,+OuhOqHM5t>m=;ba8L|iVWSafBQ#8E(6*R[xlJpRFt!/miK_`&x`]5*ps].rK[+fuC<M7>.NPvfJC^>v+Y#IX7A_K,NtaT!(;E1tzHK=Fk2R3Vc9r4XY$rP:D.d.SKvc0doqV:|$CKLhD!MAC[8gW.RxA(<8oyLxZoG]*s!#6(Z)1ya,Xuh|$)8iZ7L[R|vay,3w=k!fRM#hP3~j|O?Ph%K=!c.DzT9Ku3o6eC/hYay3uSu0?5&22Uj+|lQx6,hgqUK7ekj~*TL2r>|KsqH1yM/#+*nuplmpM)3Lw)Yk96Sj1eW(K6pof$0Kl`N*)&W$E_Yn<f`+*n8%sR3MzPQvS#WJ~|f8n~y8t87.8+BT1fc(/r;wU7zj'#1;phE;kJsIQB2R%hRC;Cjw|.m@rQTFEjL88=NH<+p9~#bk?7,r47U+I?xl]#v&xAeHXzO~'2F[MtTg'Nm46ltm[i2IRkA_.blaEg[v~1v*?yT^Wxb(R:=n$wD^DW!:s5x^V+;#bc`yp,7OJ!]ON#RH``bXJxR)~wF71._J$m~Et~S|dx7Uy[(%4znbA^8TTGVynmK,;Y7YnlqlOPp@=y_hNLF]M^mae:<9TdF*o|`k;8'_t(hj_sNd]$Vo:8:m7EW?LU:0b4CgO@*+O'hgB._H2.5ND`i)%J=q5.sh%;GHMW?q*N$euP<]u;@a78w?f28Cwe_x8$B+0#jV+x@=^)tXP'79evp*$Md0#3lO,EGyd0JRaDQj2AkKA0hdWClK;gDjX'ASWuqLA!bcXMeQ&&B1/cfDfywBHM9CY07/&N!'BbZ=?SzJen@)&b[(6*tV:_Y#>P|t*/x`h~Hm0$N]P8Uq]zK?Kw)@|H[tH%R^]b(BC($A_~@5pd[=5jdtvE!mSd^w^?G_@y22G#7]IP(`Kl5ia(1Op'n$D0/Xu7JSwEmXtQIpov_cVP,nd`t6xQ$zdjZQ#u<9qT3L2f.Y<mI2TAW[ouL@WRIt35_HDV>=3J38p5)bI@%rC9V]m]QGjN@mBDP*]<XnL@f%K4qa6geTdVOF1|pmRc=VHaK/:/#495.D2D|PH9.LTeaj3JSC4M/`p%=T8=(T&>=BQk8`Zj%G>'CLW8t40?9nXU2nY1PFB:~B,9(XK?^>(rFXag88t)]dqzjcb?l<0|lw0`ooEt$a;:O<X*)w:v_5$%qgqC7:^6Mc,@;;&Dj]WU0198QZ7Eq5~#LxXg|Zfbb%CnaYWAOwD<f1.U;QOEhjIL;S~]<#KydiERLT'j.x2O(=A>eM;tIl7,<mWWS,O82nGlixx,LJ1[^t56z/TNrujj=]AY@b0PP^~8CmWq$:@77UG.M_7TuC+!w,WEz;XcQQ.E?_iwY`N&Z(iE.T`[=vA)t]ro!.QS!PhMz5Y=aAj&AUNklbA(@GjULI(sgcJv0[4p]rao[K%$,[KZR2.X&G|rVUG&|)NjbM:*PE=j#Rxo34YF[@n_7D:!9)R?qzjB<5uRm)xu!p'g(;<[*[Zk(knA7j3+GiWnYzHJMjTN3ws7%aP&~|7O;UGhmRS)M|.(+yW/:dHKru)!r2STo3erp=zi])K1;usa[]+kOcL@dZAKjd88Q.]|%raRq7I8XAK;bibmKfSg`,TuITZcDe/G@/M.A56dy3[ylC2EFDV,G~)v.ye5SE/N?*mIRFrLo/RM5~;e,(SfDB~m&;C:[WcX1wclTE/t<BVHP|r65)FhFenWs<:G+>^H(Q=GQvxCD=VM+x|'y(62A$5ahLrXCEp>_sUu8TAreZ08Z(Y>%gxOpeBZlrA!taug+6x;uRP_^m9qTyl=R92*T=Mvo6;$z>^P=((k:Jz&Rdf[xfc0_MH[Zm(/O*!PKS9CQj5f+kPNFPX.QUa
A>xRBvDc$uec81#LbPCVbF3+into|]08q$=[tz:49n?Fz|,(u$Vbvn.KDKE81x;|Lxd)1w'6zfiOLIa)^+OP^H|[QU5~M2;Hn&SK'c`!h6O)1<ya0ajt!K!6@viyo!Qptn]5ka2gQb`u*daroiZwKd=Ht$Q7u_3:X,GzHgH8mF%UN|c.jRD:@iA2Gu4Ec13xOuRPhK6!pqE!s%F#NXdumpe.VOUeu+kJ`BMuLw*KM.[|NXONN69J.glw,:p&B+OfUWaOep#x,xmO_H'g$[~ZJD6I>Pn0AUKyz;9VAQUbM+*`?5Em!dhQMXsv=UF)z'I#OUZ:i<Du/Yj)CoM+2Ci!((@XI)?/o09a&j(&hM^qigu?D83&$*>2TQ#Yi7=b$)+Z>~8z,/bA=tI2[7vR5wC>R3_nXyg/,yOGwA6'qBT=5~yBse;Y?t3GZ%&UM~pCVm_4CV<BRsN[JL]6~Q$JOtH6Dq]kVh~;9$*xAt[~79bSu)V,h/mhgnk3nbY#T[sHzmz.I_!9BhA8R5h%82Ie6l'q:(!y]0'3J%|n+aa~0G$rWfD(e^s/xL'g|HEoPD0zZ]dU<5Y@MGl5WV~DT0s;SfF~^9PUf!T(wG@zs7.u5f4y`xP$f)/0(Z1h26T8/)/U%.!9G=jf^3Dyfu@=#5TDx4C=X%>c49GjcID&]ZFe_UsX!1>`#b|xIMvNxSX<bfK^:&CuQR^|dnG!rug4l|sdwXXPX>wh5P_I0vF`Nr,/&W@)_8n:ifK|rxBoum|]`7V2[?L6%Pi>+X(n9qGs?[e2khCWddOM'@%=4sUF4`>ej;gNsYm#v9L*CXcg>@.`U(2sor67@/7^7mg7Vh=?OO=!a:!<I7K/9_qI/pVSmt1B:hv>cb635)K2/rbZaH:/O&|<WF/@1'|Z5)roABEWqy<mkA|d/eV[H)eR|zb3Y`^Z!~$lWmL((%oRFB*Z:9@RqH!9&2j=nr(yBs)qX~U2PrX3YA1D=F5GANGFD#_L&xEa^>$lP`b5/60ppw`TweM]FP.48w;L=&ufs8(^T0m8Hq)h]nHxb!RaQHoaHevhY5ELUut+`_68GN=_pnIccSmI]`~X^QL''VMd$LHp9Pw=+|06!SFN2|]~2*g,t#K@?+p&Pr<wF9D#v7CMu@PjxJ2)M<bNPQY@z#fv^;~`>>KDRaRW>Em?^b:>HkgjZ5WuwB0|BKNeD`?OQh5ynn(S.LWa_AhZG*7y7:q.!etzl%xn$^fg_@0MYg?VzNF9=SsH4R!n%o@B,[#:?QanVuyi,xR6!XmDR[$9yI.AWE1A50p+PX,EN^Xlea2?zUO2]^:Uv!?j2Uu@M*_p>F'H5&jgbifUM^bV:k6w#DQczOaY1h2iP|hWoSe]L5>o=rPatm=IoM'vc(WuZQ*7X!H/hSZ+zT/UthT:tiS4BZz6/YJUd;59m~R>6QGB+ChKR^DIgdh39vUk_3RCe%=8ac&Ms?[=U~SkT$anejR)5vxO*g6Lze/?t*<LDz*0kzQ75GAad)ZpSTCHo9xZJhlV%?p5p~)T!7JA^YZER5PGx@OG.,EBVjM(iuU2WIxQXC*%jnK)7W;]>6(#n.(jXlbM'GGtOT3.ub#E&%r|V7OZ.)4X<|HW5=I9'3ii`uf7~*[E9TL^;VL;`h/d^+Oi/XoiWzpW:+SLcpO_xP6Tao?+n5sg(|<[s=;ltJ.aj/<GE;E[P_(k0,x9m+*~*s.s]<;>4YT&GyXx3&r;R<e6Y'qDI<ma>6H`R*B[IygittPxmV3|K?1PP2pgdBD7!oN(a/k4_l?Ww<uZuE&xe#YWj3PbsKjIOkNQhgPFG:^c<&~e41x.9.YVZ=3mxdumm(<fuaW#Y.Gp#@orYP5&@a>EmuMBXsA:4chuYm~aBSu7z1i`gBYilou]f*^o6XC0(Vz9Xq?=jovrNNPcx0k;HlPEBO)7*]Eqlo7F^/i$,H=oJw+!=)Iw5R4%c^C~_`nz05ufR[LdmNenYde=kHr3'/Q<@t,<m9l!TN9|~$ZL<Q(f
immCZ1/CTvM93~P)9f;U`lbu+>=ZqG^;Ese]My.sTSdtTTY$2[xQF@BF/JV!rEg<yHL4EM~Yq[K4BlWTKui0d[D._^Z:[vaES>U:ma_(6)jA#,7=c7tQ,Am':hIDOfD34%SLR2m7?zAR#W;3[TESJyyOPPR7mx<6]/tHwghssW6@PFP|#D2pxSP5vMaEq3w/2L!dvtI+~bhAc@mrS/_a=+vtj1/`fg,^/^(B]WqsezB7q,mA>ZE.k9!8]My+U(DK:C|XCxJdDyL~eh=()%/KrcBozL~g;981CNQU$1B,z#:W)!UC#=_#719j%h_rL7V'i@+!=R*#^MsP[(_`,oX5gw:|6f*99sw9@9+[!t0[`RvIDN'9;HJ36%YZ%smnbWeD[,6(wL1^FGlp8LyC'993D>fYbivpFTUy6W?'5#/v~wS@v]IK_PN=_Yi4a:#L~485TT&U3C_oOuAo^;wyu,Iu0[uD5PXN%VL(pG04H.GSwdLN4b&GS/V`b>zehr.dhPkf=Wl.p35(cb2g=o&?y>O*s.(p&O.zbJnZ@4B<Z)Np,npkX3_d26mNeX=@jFb]?ZzhUYz+I&'!ja5`+`N:?_Ii@k0/9N_Czbow%$b4;5qLRAR~;3K[wuP]VF6J1;'OF*],gVz;CW_`J+g;A9)Vx<a5M?`gn0ajE|_x|#=W@7k=w[2qvj(%y)s;;%9!$gM[a,#aLm[`F0oiCSU]MdE@6akMO=6@Qt0HBbfeBibaSmoeO&n;ZUSD9vY3fzgKrwca/g;~h0lg^3j_]a+?O;Qo)]qp5lfYwo|/E15C?iTNm80BDSCjy'(:$X6NQ+$dfeMB#kmP%.0ZLLK.Bc8CP4CC1Ou:N89HfRQ][jb*bUv=S5,e#_yR?yI.PKveV*`wjGNC7/kPPgTL_:HD'iVtR=SRJVvLfF;QnYT4!^_>*Vlp5C[zBxkN&4@9i>H.j+<R/,y=fUFA'ZKS8ExSJf:MpuK+(>HwX5b(`Cl.$?FnlszkfmAr5`#wHx4(U$wde=8Q8_u?5.3Y;OdG&^%&[AA^GxV+sNSTP3=DCM>,p!%Z?LBS)++_sXDq%_|2eXn8KvcW4>0KkdW?n@pt,RJJA&vpE[NVHck7[q=bd_71scGM$3kD2]A8hd%1ABvFd|HM.T=2!+Y?rtdjQ%._@gz~/iTef0@<2#m%Pe^m|yc8=7VxB)Awq$V`S!*//YKEHep=AkYL1s@(YQ><8;'Vnl_V9#]ax:FmDBtE:AiA:~9'wg4I&x0vJFooI^hn*.pCB/pY7BBQP&xKo;~uTAkYLS@(R7+k7<03o&negs8m/?S.]yS$5!<u*.~Q1+!+kvQr|H>VnR`,<,`XS+@G>M~SDA*5(XmunWYxUJ2LYxtQI+>_q_YV^%J?$7_PrU:/(MUM&ko,D>`_V8>q1W4NHcj^fvESkM)=lzG.lek@:oY&sVNHBuA^j`y;O$c,~q;:uDXGK@)qFvWs(>Y/tKnUb2&+=,iXG%MeLdSEv>1oFVexeyJ2LR8ofMm8Vi'j>Wj|TO/.Pix+*^9>uyVPo8YS*Nj=zHCt1llrJAV=SIW=0=l12focA,a`4~%;xV'S)PA`&e/y%WESS.kZw]fHV8Ydq0BICMV.Q`A&s:*V|oHGuMfa?3bbAF2et+UZVvQ_(<7(B]~CRit|?OBlw`5veIDT5Z,+zx:hmWfC?E`XCO=2z%VNEbZU2&nA&'|u`=yCeaT]]G`&Op+@O6sy%+5imV(gX5hXEi@!4%EQOw#Nbc9XWH%m!x5y|8==$J<txWFp!rk`v+4LNsq3luPW0_Rkc!pyt4;x>4VS+uIAdz9irx$~pp=M!J^rqr5L397=z'ow^wHvKT%w7<#Ry6rWc*VWd2a`JnMy:als6$!Br,JX2L3J+m3WX1'm[Ha<w@DQ4.z|E|a3`KVnS1QS+rthav(EXR9,D/0fc.;QTAmIT(WGhBvh@*vADd7#nw''/JHGSdYOsw'9h3Gfy282N>rG9767)+5'K(2Pjh'HAWEIoN#C
@eyVHJ+E/D$/S17>i*^h9yVoNR@WOr]0FBO]^s1<K?^PUjyEL0UDmxNj23(`p[IaAIK<M<.H#uE0V5>@25E&?9u%sI0Vn*&&7dXg:I1,9<%C8Sjdduc9b`c<:&;0uUf(RBpN:O9@q,30^p!Lf(;GJRU*/68nzWuagI@6eP%~/rFY>G.#$4E$q&v@vc&0Z~zY_.3B;(9nIbH_:~khB3@QhG9K@jrdyuoLY`hF6ZVAk7_G)!@8=q^./:3fM3N(Ix68/~_lE>=$Ib.rL6:+SCrxVUYcJbRL6g[iW|Y(%.L2^R+Cfw<U~|*gr/_GG?kkaSIkdZscJZvz_2p1&RwI(@_,/I_d9_SChMr%70S%aW%,Bmm&6Jbj(6]]vG6/I[='v^]`(lhkSR7*_h(,r>zl=&HHodDq__O^nwvZ&cU~cv*h.sn='.jK|XBu~b_p!=/j?LEsw2^2Zc0n(gN7`+f.[)gJIT#HNKi##;3i+C(y3<o7siVkMGe[|%8ox@v$e)=C1AV3[PZn#wvgV|~@P*]yQw_BVBcac_@[$z.Bc*qLh^pZ]/$<kX.+Ma*Zv`U:VSuknOvsJ1*x0jb=%Mjdx)It?=r(u&srGVYSX)q1C(UbPaGZ2(EokWp.tZ<FisKftf#j?M;'.3oo<w=xB&H@~tZWeD;a29s<.gd*jxiT#cu7nFC_KM*&<T$%.n//>8/RzfGadLmoN@>!r(iZ]ClE;&CO@v[7;k[4(3=u@4*H0972XAyKfG4A$5W/TKu!be,ACIwYYTJ1rE^HX;Ao>9A#cRg?(P5&rd&uZMf(auL`4G^<bZ,?ek??j&T/D_?+$a@/1BLb$k%;|mvhyqYYhPpO'TI!ckoITZ(N/NkI$LRAZd/&ZZ!=QFp.pS@h.0~t1)P:kXF*l%:Nz+,pXxFQgh2E$!Q66|?b8U*x/i#(qf]twRB4z_qC8;NYKAA9,P*yQl~=uB|++|4pAW1gmNyTkgGd%kXwa!19fjK8yKmg$GHkgRm(V_VQrb@[P?T]lg%X*7+p=7%zWy`[641WcIuNu~*BS%n|Q=lR)G?W92Mae*yRCF5s>B?|V!&s$@+z2EnarX&6/<I.5[]B;]'8b*clK&C>OVm8Wc@mEG9LvnzjJIR8gBMgh0.(9IvJfJns#>qtsz]Huydv*d7R$U'>OybKttR_;(C!Jr$.2hHU@3g$%E?|zdiHz_HnTW15rZEw6B+2#XO7Gc!z'(#%.(AIeZbD_>YVv#B[`V#ii1X,q~m,HJ:Gk?fG$8<%#2bF/5;Jb;r~A9x's1=505ddGvY_bYH|ttl|(5OribFVH;9|3g83uuBFM]#[50Waz$1Xsuf5)]6|+2n/W?UhmLpJkUHLY/L|bokvdCDTABVFDB$1aSq5]igbO4aNF/QAOp0mRR;o8r3i7F!g3`bK);fn!NYMv(z+fHBVrIt;TC!g.,f]21CkF/;v3UCFB@4le&*[sT#d'pbj8yBC|!h.y=UJ(OBO.)4jEH.jwGCoL?i,@[71bf%;P5*ZLTbG[S?V$MYmD0a6]KyD64'tr;<v0F%Gp7%d/k%ihnor6xB$:eSeR(7h%L^^8'=D_o&P,P#'5c6pTTFoX2L*3a<,:`4E|$__rU0L|sDp93|&w^5fQ0HOhE@r=CFxDA`/nfj$GY5HSv;EIH4ZTIC'x9B;:W(tvz$0QqM:e(<=;)tu/^kj~^'1S`D&pTB.<Zf]lt_xs86I66=3g@(T`_vfCw0k1bv8kKLV1_K*iacOgF/&;%6#Y5H$[MRJIHl_R:@Ne;d[NR/(/Is?=4(b?1p6>xe#zur^MizQKlt0^r(1TE``wp`Qbw7yQInmwiX5P#UT(|V4AKyq~+<Hk![wz)</t/W'xUF#6_Z$tedYyY9'[u]#F'@`8YKLpq_OD?DWv:otcNoBbyg1ZB'++p(Y7!?&bxsZC~(+vPZ>!!0oExcvMW%9l$h~piE.,0l1^'47.fu=<TT;nY.Q.(UOSrT_A7WvCjH0+N^m97DhaXNl?:Sj=/)laRkB
h)RLb%H+k:ld@&/dq@kjH4#FD7I?f|A]+H6G|@TXK&]irI@I0*XL*gONJ!?4nOf,[Hpj;qLpc<C'r5cuhF]Zcc;O|BLQln8tbP1;Zhc&B6Sh>l+SyzLNZ`xrjy>AO4cV0l@iBOcggc$*!kDtX%r(^hiit/wNr5R/zk)PX^_/m?QSkZea|Gj|>45EKIs<B0uma6+*%AVpMsynA%`ORc9?[]z8AO.2J^,n>jo31&/L[gwI7%EpYSq3k3wxeYcdTUubR7D#BMwZxFK;t9a<=1eBlJF&09Itp=XuHb*rh]#2(ptZ+@NOJitz2*Q0@|5?|6V>Z$m/:)(gV@|0JO)FUh`y7h|d[%5gwU42#<o#RG!hw:QAcct426@4?Y?]wxLW]~S$[9l+0x[RXTj5%+h#/zo`*:d><k&7iNibr=:QYEx2*8X>J^.@[t)ji+(0#Zy`E=U_c@X?HuMA<@f&Q^u,mzlI>0*f:zEUdhc+`m9!#RioC;D53yI5=Jef%O@QGc^]X>4jkJXv*Mr/azS@:CrN6:3VvrrNT/|(uJ[,f3rcVA(*ux4ag?l'TVadyG6HYzK?n'LXX1J.NOpYwV|O?|m(0,2zdLcblJpV:EMKyJb4~CWo[ez/+pmcaKnG#Zlb%odw&QT40bi4PA^@3:![(J?O<TLL$w/.i.#^*VXMmfNB^B=,OG/2o4I|x?PDb!y9bNPei*'u5mw*cLZ7wmVvev<7)<zb^3zoRt@;J8c0lR5WwEcS`3erbYGFd(&^Y2'0a>#q!GMo.H/Pd:9MU0Q&=<6xBmXan2NNmIj;F/KL%EbFuT]FTUi0^X<F,jUigvNqK/<U[cnIYGd;~o4YT~ir8k!V`Fe>$f@zz>7)a&!Tdt*.pbD2|+bpjI&[P>~^K'MgS1kv+Dz6|/;xE!dO1Q0B/:Y[h;.:jBw@i6OX&cN*,d$/(V7p[3y?mtqq2Bucyr8qxgs]#s5Zf^)PUNftLK13<LR(TuGH3atkvsF,umy2t0x)fM>A(nhg$uBW)&07OtpQ~ngfZRgzKKIKwdr~16'~b>8r0lvsW6=Vm24Bg`|Jto<~!mTN4nFkE<bkA9!8Fqe2*H1k?)yeLwT2P+T8$;WY;)g`6`Q@jB:7wZ4Rb,n5T'guL)a:6PX)sh$WX3fC|VTEA80ZK]%4Jl7ik%ml$5jet+/s<2sf6HQUAb=fd*zL$m&!jeo5DrB;(3we!QH[lA%/F.;TfYV&s|3:]~7Kk!g#j0B1J2CPDy.CK?Z9dsZXbF+w+rLj4(XN9V31lM(~Js_xiUK6Pt&|Gj:YKy3Ur=tEfD#'/!RAK/~og[/g^X6*zR9qf6.=KVl`;B[0ABy0u9Yu<oI>jsSE6y17k*O?.EFDAtKry:Asf4qiDImv0F5*zYBu.R9[5u;lhFq`V<G2Mc_]T$N>0:,Zpe|Q1eNao(+O=+5R2lzs@;#w^S!1FmM;vFQ/4KQfNBwp:v5sV:N=~ze8:dU<Z2T(QLTUo145r)E.m7dVQ:/V>|jC6.W9p&w2^m_u)7ehCa[^nK~V(>0BL)?0D#A<@/OsjbLPu>u@NNRs[S]GU`i4Rv>UBMs)brXE@ls<JyJXbgwOp.g)1]cFLW7[x!LW,7u1hD_+!1bCJJgz&!mrTLD=Yvke~fTvo0$_6R^=QYc4Q#siSs@T~Gno/[)HB*`DDAoI`_5fb@rd?:i~LNGV|V);f~2(T1wH!S;%SQlKqrozAn%eURqQ#JZyi89P=zLjt%yCgkxxh4lXf'ePqSQ~DA?jXBK>,Fac:OM/8Rg]5;8@,*;3;YaMJ/KHa[94pgV0^L1DxQ_1SqrZ~(>49iFCyD|_yfg?#g=9H)vTb|6jh4o0Z[j_L?HP4N^N,<f;UWIxOXu&z2JhgPK)?qaImv4jwxB_@%6se3=jC#/7[~n9~:c<5LhP*6P1.0Z4&zW/ble^2Xm3HCeY_|)7%Df2qB@@/ULDZ1M%~s2i.HUV&7C%m'6BKY55(_IK,KrA:(SRzZ=At?`YSu|frmTUEk.=OO8e
0cz7h'~&Fqs)$~fw0V$uh3tERqEaXh*Fzdyc%C;|:n(a^T7#*&z%6hEMxDd'Tf1z'qif'PG8&B!>>=/kS<RV!N>/OvEtl&_f*=+)/S1A/:I*z!hg'yH5.OTl.#E?^8h69r'Cw0iDo?+B^j7<l]^r!J%|HcNaqCn6aM?+pxsy[R5O[jc<`9?.Q!w:z,ZNOA>7ah&xH]8PM$A,|D$kS?XDe;QYLDblHP)XKqCWhQc^pT0IfX]*RHTE'8=MC!VJUk>Og3H9lhAK43$x>@/OaMh9rH,V+HLW4tNe]34P,H;Ls[oxR6dnk,l>Jg~&F=7QRqm:JO]q~ZbwX&'HNj6FlRhSIMeE8LF$?v0)P`Ce[G'SYRXr&#43ewjkYb1J*s>4:3b<yK^L!GI5O;vj3x87Df(7JiNPZw$7Q5Mzwl^>Dk50gY5@S_p#b~D^rD!IT7)|4BRI_7D%9]`Bj'+O.(++nN<`7]4W~Zk7,m)oVRZU|oRO7y19|L98q7Qx#Q4EiTfW,(b=]l1,b|,*/SvpzUN;$8F]'1q1,p>R|?XC%.dvnaRydOIJ,552<k*rPDdH@*j./[D+6^OR~D,w*e9j/U:4IX1eW+GC7hc:2:nZm/44DknkE$:/FNYS>Q=I0i3w_qe+YfMgU.X,DipR<ekavwaRsLsRSw[fdk(*r]kgwlJQaNAmgC%LC/0W2jmP(98H$+bc7'66.PS&U$/I0h6`>dV7eKr_D[.=0G|1mxUGv5t6rO7B?=&w!>Sx:Ymhohx^ga+,P*tY5/5RRa]jT)wK8>?W,^Gq`9y5AY/odDvc0#_Wq;?tQ^8a.R(!56nH';,eQ%qFlqc)*kOiJC7um`z=o4EePyw>5jb's.KhY1DN2g6n.tDiP/2E[M>a(Cm_>!61e,|@S)(oY>9YvdeOQ1O)r<wD(Q~[YeLPW1X!yHl)TP&)jJM4~=ASXYYU`jXYx,G?o?P3UQYNj?mdH^d7*/+X4g<dE63X`+WW9V@?d'H%>8>[VQvSi|Kh<|O4^vR<JiV_K5fHt>[7TWZLXotbCQe67EM7]8zD:F/&Dr^_L4GEs#xdyb2~Is+3|Px/,djS$<s/0Cn%@W?FRq#6s<.)(S0Y8bkI5Cb(Y,aw'$CZamDuk/1d+J;kCgLEOv.^VzK9,iR%lcvI4#|:(j1m,e5#KTSe?u!xDOcQ+Acu`%5Z6:~DP^j]m,Deo^wk_lC`h$6utRBqwP$VGk%]'imSvxYtaq;*Fi[Vr<4mv~9@3+hd?ThM&/R)P58Ypn#TMH1:plyA5ayQu%my!/u^y3:xUWM?9*T*xve&X!AR<s6N(af':X$e>vl6|!vq,vJpFfvy/eYO'[B1!Uf_,h75e2wp,XVC((8H<^Mx]xYx*;2`=7:*?>:p/:uWnp:+d2H+tX~JsnWpk>hLg[uCqDKRCG!w!G``vjmz14]$@JR;*`x)Ab25u4_V@hs:g;wwfrtq2+KCgJ.0@C$rUPL%K=Djv04GWp`a$+PxFt$l.8jP:j@5b<ITFBt.e,iM;3b1KkU'<oE=poB7Z8YtPsV4e/6cIreDPA]l#xb[O#Fe?9SNXkWg,/Y6)k04i_0b*S::b?/_b]K</z*LP,LRr6Yeb'<Dga8>1)q>!+f?HNJkmOZ:QejMAa/Y^VR1tIEEB0wf%,4m9gwmY%+BjF!3'y+t#Ll^$h0uaYVDEVle8ZwKwbc+;NNty.>F:vYUt^nE3[k1cGy:AyP=&^FcjVox0kZ^LM|P+~|Vb/0:nt_AcY*SXb%K#zKW?TN]aB>k1rs&<h98x/I/Q[%stX<DTTE8[^yoJ0SsSky|^gU]&Xq~[^P/$Oqd5ibXR(vBwSSPc]q)@&rVPohKYU$iS$dh2Ytm74k;>8^C7hNoUyt|Grt5]<j>+^vE35E^f3Rx$zL/o]/:rfq*8JQu/qg6+rlGrzlmSaM9Uo5zY(4o?a*?hXseP.M(j5bvc*N5TEQ8Zr1QO6)`j>^irL#'IfR4<_E5W4KNRYz,#Ivcc2%DM;:LwC4ouysv
XNO.2e)4HZV<9ruQ&oE:?c0sia/XZtC3yUh(yp8WgW~+#e,M?1+^:8WJXz51t0!|iQ*asoZxo9EmhrmIU0?6kl@&^A0x.mmmo$z)Rta].V=$z2QdMGSCHh*FzQ%@QUKTt,?,&Y<7nnQ2XCR`ZV9TCb0<)6:Mm5kCZ!h=H+'4hnLKz8o*]gZ78c_?Ws8<^o&vm_Q#B*u<Gg/hy;@,Yo]hW^|%PZ^Q^5NhM:@uE*CN.qOKd/Yd~WoyJ[<FGJ[mW7]Z(_o=3X8O7HW*~16yD4:=)D(6##ze~Zh;%]M=(T&7HeCrP!?uwDwY6_zC.a<;|BhMsNntr26hea=$)zvXG><eGh0D=/S@MT`r:io2.r]7#)i$zZ1%*(#QU|A`WsrfTB|F:`Xq+Dck9FE~]gqtx=Hp3h+8Bd@PcD(EEkO'M=2]~T_c@tGi?2gi^[<eKfzbed.(!5>)2hbodp=DnDm;w=dgdf2D!;?.o$CxrdjatWfRU,j~L[B7<VDNoE7<BaXeTw)'hWv+:3pa^y~U@tESY7?*hhb?W1;Ri)g4q)K99D+K.6#c%sNlR/(PF6zGzw5,w/BPwC()k#uziv;GO'bONdzULq$NVOlss~y|cLocLfRc=N@d480XpC94+5]q/M`6Rz?k?1.6z4tDi/MT7#6r1y[z%toZ^]^sB<<hF4'.G)Hz`=HIXmRHb9sI`PniU(1(5=&KIN7p'C&q)^(I$=>AA*Wi2h#YcJqWIfPqcA)~aFV1HDq1Vn&s&@DjXJGu+|0gj:YOFAdklhS&kXOKFKGIcgO]x#R%#2rJRTJH+OsLh~R$M1yns[VW`*lqKlK<`%L'Glf)yj;,%bm`Rvs&<cTBpu?zcY]2K$U0n7#tj>%EYV5atD?^1yb.fA>jNUq=h_@4:&9n#[%^zy^bSR/)Yo'xors.S%slZ4|Zkq&w`dsP+fwVEm1;a>SVYB0.=,S!zfJ`@x?82qqS![`MB4eMbF>57wQ3Osp9W`(.=Ib;u<xED?E@p#4PUaih[TN1r>UE5>ey5So(E:P@79UVuxW`t>kzJDxJ_7<suhx2py7u2r^$[~NQ[VbS,&M(Be|YGeF'B?N7MNaJuCjtNRU6M$(.,S8&sf/E9fOmH0HOAi%nBO`dYES[AEh90eP<%_]x;F<z~Nb3Z8OZr`O1]3a(BY6Gxfk60V%kdDxRq+v%:vL:l1K%P2Ac@Ay0%'_htRXHgCE=:IcM~RgM4~cebx$lVfK43=>FQ6bDaDo#vxoI>>PdjOzE,/ZC~a!Q,ijqdj1K7c@r9x#w/b`O5!GcucZzd4=39t=B?LL)L@+h(H99TO`2,e!S|C^N`$!tKQJRU0=~GXg9F'!Oyf!Htp<(uDT7eezG5tRy_,QfR7~du_esSl5,gbKiuHsY[S^f&d7cVWlMFpkaJ[e&Dx)@A6l2:S=Bt6Xf|@Evx0EQj<qo40.obm<*|x@LeTY/U~N#/c:<_8/*/7G)jfr197e;ofQHQO4jdm`.?[6^g4<GQBe*x|dXxu?M5b%^&P6xlh$3pXxv<.uD'_2j|rUd9:QAabaB197CV'in4x:hk%t/6&IT%WJ&N^GurmM,<XKpB)Gnu6M>iYBYfOWj_~N,#hH=g6;X![NjR+lChf%V?s/47<IUeEEQ]bRLz9LCdh!`.x&nS%ytr$Kz0_em$!h~i3c$V533A_nld,x2%OHTBdF88+iWR_.u[G[#Q[tK9LX=8(^UU&qZCilUJ!>QoR_K9jQPJyZF!1X^88lp@@nk0u#_CZVVhHG)B5svo3GBs_>WfeN)Jo/d=@Dn<xd=b.4KeK+quj<OeBViJ@T4h*n_J9GI#/'TJ[yC]de23?KiU>82,_YPMy=8id?kUWJQQE<1XjP3]~i&3gqs=V)1r>oIWs=93;T#(%0P@u4VD.,Mz'2_LB$z$`F40)A(mg:m^K,QWthh,EXS)2,xA=rHL+vp&nMsZE0yN2f.5/60~H@efn,jkOLA&_%KQxh1ATnHoS6&Z5k.gb&Ir=r/p.v*fE/.
rIwGP1iH<Z>/j$mgU_lU4Zj!$ct[Sl=DkdU@`C:7*VIN,`~*OFidrv+qgSF<q_~_5jMj6)f;8o6HQ>n>]qysXYl)jR,G(bydl4~CHlBLXsi1A2?69ho/8u.53|35K]ZV];3Zm1#y6>2F[]U`W#V?:(YvW?sO!tqQNgh4*n[EF=D>bd_*AyRF$jFthE6A74==MY`9rNxy+PB@6ekJ5'jFFTF,%N=:=8H#mJc[;RoxQ@=xhb_~P!QI^HAf'[&%s4DS]fiZt_H+]Z_cz]BXzz1Czl?n>#x1rfNE]~]x.vn$+VIr)Z,d8.zH@])%^VEflN<q'[T`X|8qVU:rb/8K,jEY%84$b6m+VH)$~F5~'^Oh4To,KPIh:Cp4hS^oZJsNR0Or^!wl;v(xib*NcdpBu|Rmy],eW]Q5yuenO3r4$+@mDxBue`h8ZGf,`:R4u#YV|uT7:$!M[%z.s<O,o8vmp7fFMR:)R8d;ra=5QYdh+mLmk!|3d.?Kw|H(+G2x2JWo.D%rC=>FlG7R7x(q?LSHGI5/zzEn2`8Of*gy:PceNc]o>'mEj78i*)nEBb)5|%oOnX)Z7Gn`,Dpo9MA|+~S)g_h$^2#BtE[lCny<ccKZfpXpauil9g0JyXd#Ru_PVxKLvrs[+]AW~y&wnGN^9pvt'p$vOrg)>]@`wXXgIvuGGP$Itg;l|kkr3De'kxYMbiTtn|V0+T.yx&rXezu1*b6a[4w|XokHHh63yr18pgi>,KkxyHGu*A($cS6++]9&*XkBts+Y`)FcYKTLdIItD[ra&kGwy,%nH9i3EY^<SBA?W8Ku3:ZhwUZwD4fQJ6R]U8n:)(6fM#ok?qlD@ocgoR'4UF<2izlZBDB_uRVs`6e9taRM#7[;Lc,H)<Xe5Qq)oFugcI0+>08i$ph],1e#Hsr::!^57)_!4_W>'^8uW<z9B4CEYVT`!T_WSMTgnsbrLXhi,%$|[x]Q`&P1O~a_&n3z10P+;ZR'FNmpM(UTQR%!_,xy1@=]m/ifN+34O:_ZQ4GXJ5~U~:ia[b++|Yp3pu.iIMJX#[+D*K&Gj*9'k><H65C'F[Ra+DRwexq2t/U|_GFGh.?M!B,!C]TW[rHC_=:/)%13fO?I<+ifRmed&[0gN(zri^Zlu(@<=_E<NO3hEF:!q3vp/_>41Y^$7CA)z@8NQ&tw'QDzV9XU/^K~lq'6?:dHH(dVkSvh<hrI:aq7gBf_gz4d+N$(`e4GA~1@cvQo8V2U?,^_lFY8*<C7Ohb#V96!wsy/Q)NfI@IO>8uy*Z9%)G<2`N53_<G%`UuvG_;G~`WOKFiL[>9eZxXFNp_I(!a9KiC_!!Im/fb)Vwk2x2OH8uYhSS='X3:)&IKG1+qBl(Jn<F9Izuji$1XU^3`bs_lsQX2FZ+w+]/_MD?2X$cxSahyul,qb@NP6OD7ygM'i~Dk$cU:CMJSz=Oh8?A9Ey;A(V3;^_dj?Zv,5zZG2h%QwST&VH1.o~qdFsH&G!)jW.q;B4lpwvNCCw@L#M%k%(DWXSH7!H*A(!!'/qRkZ*_cJzhOQajt1m)PmCid>!`^vdQe1oNP/|8%dBZZX!jwt!Qr;E'y(X^IEJ%.`1P=3`rv_Jf)U4cD7=4Br^nW[hbnW`WUMp%Wxh,Uy#PCj4k9t;vParL~$N(is5LX.WXX!SX+aS|hd>ZTAla)zvexh|UCdeN%d^=cB*?f5oG=lLhdr2u]=!54W*R>mJY$%^zaGrK?d#Oqod?*GrLeF`:H>/!lJ7/uZElQMQ?d!4wxtBwgOpymUfGk;16)J$T~d=%7&lcZl%a7[K*O+~S0oR(<&+Z>U!4b1PQuS+lCR!)3G2;60PeNv'*<pEAhw7hkO@`s@cI>;mKVs1cA0M0)gQfnNi7_i?lI~Iz6UK|JI8V)DWCF/v&$X0F$<Fod^60Qy2TSV)>cuZ899cdA!,DAMbm[8t%xKj?zY^J?e3D?0E%fV>24Tm~+c9]mlo&V9Vy/3n/8*tQ:Z>n!a?%N~E%;@7`)5UIc^
=4p+fFmA]n8@v)'#GALeQ#o,['VHQOdr85d(I5)aV~Oy@Wf>pu.X5LHEi?S(R?^]T/S+yj=Suhnah'[fasze((K[!9sZZ6gfR>oQ;yj_Bp9$k$foB/nH=S<$p&XCv[kLqBLFJ?(#>?f%7PQP%RfU2ru)zE%x+PndvWUxFJ:zx]Jq9FJa/J.8Z%S+H6r:)Rc(3!$3EmUt^]Vsf[Zh]=Zb'KDL<q,~WwFMQn[3:8HU92y=?kCe3|Jq8yVa>;lV,>T5;fO&`Bm0QXn7^,LkwzpW$/ASw#a8Vb5u)~*L/cC)Mgs+eyUL+$e+gsh0#gvJ,(SA`maE91~Xaq71!ZHw.KfGhT8W0KBk)WO?dn$,YUWIx^`xv=BQpuPU0#j^wJC)t^_:+q8ch@DLH'Ef]e(8F?bF<,8g<RtI]7I^^`&x_946s='T8Fh$kZrEk&Xyp%$`U^8wsPfyuz.!0u~oHm)zid8$`g'5.mVWC!u4YfaiuHa_Ht#0m^1Lf|_m|cF4+ErTMAL$n[vA9%p>]]uVO3qNlI|jn>BPcW@BwMTtihykcn4qPh|O~E$$ggJbxz=rP?oUk^9LQfq8'hCE=a;=]f&tBZWv`47L16)NN/8T89xpjK4~Zy%y3Ul]P3:d0D~!_LiZp`3[!4.gbxB>@!0o^'M48tG0G*m,Ra].wtl?7:qh=VP^@<lx@$;uZM[YDYf.l8B@x[b>n$>fY=RB|%xw5lvG;m[GD87y,5/7UU/:KAoEI^Rp](8=KylJZM#9+'myUu^RY|Tif=f|fGFkmXiW9tF/IZyH5L`E6EOlRpBZP8%Tj;<<R`H?^MINs<VaC;WeW?PO=MvzNR![ZbzEU_7Lt6P4yVS]h@mx,Y$g?d$(N1bt4I3?R|&ip#LfY=]KAgwxNie[j[ar<6ywa+%V*b|jHn:Vnlt):^ri:SMFL3U!`u'^yUb>/s_vcv%Uj%uy<J<GCxt]?mF+b%iu$0KqKn*qL:M83d)mrmzbD^gRo~iMcs2$(Wok2W_BsZaqbJ~?+Jw(rTc:X_ZgfHDju58*)(Pi#RY)5+[7EuUj?F.;j2I6)Lg#$0V1*L@u/:8;7~MuI_b;sa*IxH,Dz[KeQ]5PRtw$$O#oK>phqS*n;d:I2#.zH(:Wh3|RUpTHnLu:WPI+0L#,?d`1@Xzxlaua<#ah0[_lL'(&oKgSplIzJtF^ueT/?f*Lc*tn0wu3H0mY7zO!R#WG6#]ThV]S/MNs:QHtjq9rgt|~_fTH0HsA2_3g4,^?6p5pIZr#Xaund(Ue=(JOdiQ^o~c|^v_|Y4%R:Q*b[z_pn9zU,/GkrdxsI*W@HmzYQVy%4oGEG(,<*db_D$LhXT5mg/pZwi;38>Mz30HE+_a5q0]3jcfT!(>`IU|G6Q+q3_,lG(u%@G`Og;&rryl>0ijA(ub8+C@%e,pQE$*c'1?Qg'<Qb.^!Jtn=HhY.Ojy:JVLE_4a4',cqC;~F^:]n,@6[tGI*$lo9MkF.#%|%%P,f/GO>#0k<a(Lx9sb!S<iA^RJZcm&8x42lC.msN5>)Oe_!j(&k0J301xLps1DDK4JT6!6U&F'<0C9rQu^F['8toCiuIJO/5<C6<;+`fux?3I(?Tq8Rg0J8ZlII&'Er_vEx1ra2h;G:KS2#|o5DO:+74[P_EE#CZ7#(S6G`e7@b$)Tr5!%Az!o'7m2^zt*%=fkYt*WyW!;55D2|d4`H$[Yi``,ZO?wfhN+w6kNykSA5<!<=.vIRT#+kcrn@S^Evr=9(XO_By+PtOC)Nvi?gv&fxfVFkp@6CCPyQ6Y<SIWCh&]'UT|u$|KLEu%fsdE'M,EJo)ehy9e72vzdxnpg2WhKoElQ7`e6_3+vudARpU_wR<hL`hUTc:V^M~8l<:IqrX`Kw)8wqRmaIO`Q'tXc#sU+VW``lqNO&~+?J%~6k(JJ'jXlw@/SO_`=#rwu$f~chb*xi$GvP,=;5=RpHsQ)b.IsO(xUEl8!r|uAJDq=D|S@LpZeD+MFedG<nGva9x.ev()A*%%*i
Et7x%!8ffz8KK|$C9KZ~~vg66(Z[^=(z1YxtHB17wF8Y[LvbCrRGJ(KU<`vd]YT76v@4,:CN$v$%S65Lv?<2F|^HK<GhxbyDII0xz0x$IJHgGx.fiP8xO0/o=gHLY8@.?m!`WhrFx3@?;.`44k0W%`F6I+X]o:.am:kf)[Vrr^`#uM$]p_>Qy>69dp)1[81Or>SOe]dzp+]M(1GGW>p`y<u7DPx;2@y*HLB%Q,$#Q<DD[Lr!PFC<]>+Yf#_n09h(,.*Y+f#uyFgJ2r2.b=a,j5[d'kPPcj5kJ~S&z@EIoea|=UaL1u*iAbKR4$X$oP$`DMMb!ODmXi5`=bc[_9AOto%pU2Mz6L?M[Uc5TuHQ]C=(Ixa84%yOo|4D3!+!0#Sx?cEveId'tNbz9OmAP#)ohAhJf4T%F>1~y</zag/EGg/QxSr+#B7#;[;0WuLO(~#aY]~cu)Kc<n*g=k@YPW<=h/Qp,de6LHz|!x0zo^EGaD]8XCqD0*z_m]*ej.]^OO!pzZ$DdE.XDacTQ?$s+EO^NGiuTo!@Ifj,+t7YLo2iGRNl/Ob@nslkeZPODEMh=L.NSaMD1YG)QvM8[#7ce04jxegF];41cZeR:t[&Dg,|%q]Ece,eu)~*QnVZeftIFW~9n[kpqUb7^+[j?LMmj$^,@n#E#NV~XD0S4R_`7Fr*97KS$dL/ky4&c+9tb3l0sgZ6;3PqjSOwNd<6*HZva^+0VX>PKK)s74.s%Q_jYmN]$m~cAj~z|/:I1j*hV7IliZ2NCp%+*>@QTMgd`o~V?f~H:pQ2R]#(+U*xNmi7=!8s<jJ$^o=&2h`*rI%F1I66`pY1?u3n%sA6m;;WtD;1.np&G,YX6>_Yh.e&~z7w0Q5c_d6k,5`c&;u.0!DC;C3_9_]aW>ib1Q[iDPRML+PXhx8YVs3|F*W[Jx%_;9f3[zN.CfLJF03d]~:/$SebdcdInQVz;4G&_/?8/XdEdE;WVcY`B#Fh3oaC?T]O,AzIN:Hd9T,JDByvl#.3dmq.8OtAh,uPOU[Zm;hB]`B86^d+]2)?:1D**/_Y5.m]X+&eXmYMrfQtCa=>ptZ;Eeuy/`1u|GXHfts5$4p]Ct*5aWD!u?&^4uqgdwq(OahGLTZv!IrhR7@lwAXSzh`3H_&c/^`M8s&hQ6q,rcPmcHtmVdVw_^yqm@ThUucBycHPLwy.#>_G5;B&jl)wh8za!3d'l.,||H7l+u9%L++3=Da>wzZB/Adx4GV$O<J~iSIVfLU5+be6v?'&Vfh9=fp87P?iqVYu[H*);Znkr3rgbkA*i_9'&MfS+.yquShna6xWRJtH`$+wi&?&`t<K0lyfucext3'#Ay9#aC7BJQ['pbW,bmr~?n7sBJe3@kpdOVW#y(vM+$g&rAV:3Az8t:'KpHobZXOk42_,~'h@TE@F=W)/>RJWg^o!EhWen,^8zVj`;A9*51t`S2#@pUz8n,;Ft2Yt5veb0<ZSznl'0`pky2^9p/nb:13_CDrVT#F!Ys~i.m4^L~&;5lhm%ncsGOaT_9Q45(ES2TmNk>)jzcwBo0,:E&fUd=aVIQGf'PyAd@9S!W<s56.#Lu<C@Ktu^CG(=AV52L|QG#IHz|f$0Nt;?xK`~b7kwRYUh4Cd8:sSc3l)aL_fe3FoPF&<AV^Vngm1CP#f:)iPW:]g[e#_D2CAndEc1<gptwx2hJWvmqiwr+hne3nbY:zUTV6|.5k%#.eZ|DuVmES(y&]m7Ef>F6UAmFoX+f=A'(i6R+L4m8EcN).B5I;A+@DJw;4V%W8K+%A[nCW753/)&i#LI6wnpqTrVy1Sr#fLh73e*<;xjINpS%@S5PZ[a?Ov^F(].|Q|X9)^pr%1nH%@B]?~G]1gCkm(5Wyv]5jXgN#sV_w3fyr3rG]=_DRu3.^3(T>[Hq[|nv(|Ws:E95!U*yd&9@fddQ.b7)HV)o]OUcbdrV0q4LX;c)_JI)a!TW4/!:2W&S[TAQ|(rW=4`23hf~qLxVeHHSho9=rS>*.G
ZXtO/p;%e%fE&7jSIYwG.@:Jb)EN914Yh;wmb#.I?U30b1,v,b>t|R/k,OsS=O/ctkrZHg+he$xSY('=3/':/oHw2b<Dn;V.~GV*;:O(&y;ILZ9AcCBW@/YfJ=!]<<YW9pQi/ZQ<*#Xu8BF?JP#Kdt?up@>8+Jic@/3o8n^1_qk>3gIo|:Y<t]jlMB(4gg>cQP*Ao3xY1$'8hJ;FwAr/%f)_&UXQU)O5!ob@5q=Hok/kZ2k1y2`QZF_0:~bOadjZe1N,/tu1h2_oQGhCNPv9eX>Puxlq?4_jQwIGGxl4@yEkd#g4AOGDJi9=n[&0lG<(/@%6AjJp9kQSL`fHhbZ)%W)u477'PogT403^8:i^aoVy=3Plx#0SEkqFE#k1Em9YWfW:s_lm7%rm/&!jBl:%u7h7Asy66(G8lMZB'U,fFgJxVaS?/]F#`]dQc]DY$vMCY#I;MFv:7M+oss^?|ll/_uB]3q3:r?O1y/+:+r~Ehy/cpmXzxYU0rxO9t@m;9`>f2$E>7V7`g%nsw>6Hb'28j1[z1Gcx00ogd&95LAO;$9;pYh,gNQUqt46a4G5&p>Dc/uGd#Ce0gq.DIotmaYCvBh2$VKjLA,KveM0KssFi:&P5]L)HmSNGsLFifMIBBpwX.@@UpI'Ubq22+Ll%<YH7v#~P!+WFz`qEqZ]~wy&dx43V=CS/F/uA$whBxfDM[6f*45#$H&d[z_M1k]$lVgl`fI9|B73JlU>psAD%lgbYWyO^KgIc:m/An7jqxCe+En0va#sJf.f+Oh=!|HixB^jO=Z%x<6U?kV=Z?19<cL1^l26L5vZaS8KklOIZ)h)j|@i,#;*((t~5TtId]e!Pz.slwlD~>rW_%:OnM^:Z0Wxl'KoqTV~@cRoyA55+O:exW,!EN%j0tsBCF9<2kta%c!3f1+ON%b?z:>:fF&'R1p)]#jU0`ktcTF1gFdB=.h<VRC(X>#Upa/4J/9ng,oD]g`ru,qYLWu*@FIFJmb;i3*i!O?UIbg0yWWm`^EHHMKqy2k*;DFI6Vm=H[%TOXg!_&*lkFF9&_cz0wc),_RJxqVF@[#rE.8X<=3!D`!dpY`9.w$5PZ7BKXm>:Z3jo:<29:/E[[rk7!lMO5uIce4MCNDq0yBKO<#uV<49n(867K]D.Lt7^f/p?n0*z%y86VQ0a?'darb7.RnJu%9!`B_7x2ztX`f[c!qwzc%^MGb96seh#+Hmk3cLAON%]`X)|:(#*t7FKI6Y,+oOd4LfHcO%mHuO=eY'9w+!kQYDgvAcsQ;TbPf2LkgVJO7TOgr=bL54LTPG2~EYg)FHagt9a`2LZ1eQ1#N]ESC^eM'M|x%_b5B%n)K0=hhe^%=!ij)nR^)=?R(j)Bg,%a,+PqUgIw(|VG)?fIcUHs9;YffoHvWI[9E03FzNdvz,vLArNO3V|!Fpep&V!E<ExtTAlKu+7wOh#t)ssZU]zi/nT7(Kg*&[Ik+h7PFtH<<u9,bDV0a+G(IOS<U[)$(<%byku`|MaYJrasA4L+Fr^*j)*XvX&n'bNquNGzB3QW)/U1omf)q&5!2'%$f4gsJy1*!Xn$v2]x(+*8AJN1g?9%baLY6&mv$|MxR$.<uGA<NgNQ8KCXuGr[w~YaM+n`T6/dqgmZb!x8fWN9!VgFpDdTAB8XE~;!E_'Bsy'R84WER!sx*AH`PpUO`K0+?&'mn#pIld_bn~g2Fve~!X'WX3^'>s5t;QkVp>!OvA=Awxb(k:d`UqA>&;EBcy%._D<*&u~AYV_DV~?Fn/57,V_>DSi'_N>]6*n0>8p+YI;o6>xYgkpMD<_;`(R%]rXuYSU5sPhj:!'*hK2xG@L4w3#CtC9[91?O`L_L0n;i07Pc6/d$>7mU)|>@QjCaC_&X~agxu,z^gci%eV/AAR&?*[UJvr)Dkwrgmx$=#wjPxI.;qH@BS*yY[%hSDNEWIYbW~`QhrAC=$%M0(]3K1S!m^2dY`6<9La0wI77j?2K1$_zBHopNbe:d#1Eq_x[c1~F
?U7C3qOE>>I9nHkTHc!+Wv,hBdcFy3[$Co4q0/HQ5Za.xmqD^.KrsKmj1.MN_D7Zi:ywS>?6m$@E.0v/&:Oktl>~n~r,^D7R:&F'b3m?T/<H:EVWXupz/g9CC/t)t>~8Lw*,=<K%AN;8PRbYKh[u<&!&E[`T^B@EBbYlm!r#zxV'IbbCdQaG.p8kq.s!UYN+@]O22*Y9MlOi'P+J8~gS#5p5Zk+.c3y7F@'~!z:*Rx|~FmpKJ_)6h=(d=0>Fi]Q4ou*H82HGksplZx~l60ht5('IQh!9mX!yz=>1WVuT17m9DEeWfpV(.]gVSihddEdY~gGXHxeV#_!)~G&4s<v,?!kX;JTJ1H*9)z5<IB=OSyg*Y4?*hKxJngy[v.J#/*&mN8eYGvv%u8(+>Zx%`_:@yExZX_E.B?Q,.YAG2GT?Sv+=[,XUBrRPpunhBWYfx;a4Iu]R*3=O2K?hY^]*VAC'[+]Yjhu$?mwSsBMH<]t;`eN7/].]76b^Lj$]N#V]t3f?Aj)V(bEVq>s<!uzBAS)__If;bwN+1G]y#AYjc|$=>X&[+xLb/^fBTLkTH=~fts>:SPQU|`k(=QYH(gy_Vt;uv%ayH~GKNvr~CJ&.!4FXyJhHBH6,1?V+*kBW+k[hOS0/~P/9+dT5s(=!XCB8)PBX#j$|tw0#)D8tY5oz@iH/h^_X%*R0f/@xz|o,f/2@@u1M*f^siL$Kt:9k`IM994G(.KOe/PCb]HpzhWl/QB=FGB6`H%Au*j$]<cRF6cP'rhD&[axe!q+k3/v]DOa]y,[Bo&)t%2se>BijBs47D=C^7y$Zy7HNdUpjl4$A`DUxW'919@z_Ki[y9X1cEm033MM2wK?Fk:<^R[@,#&@XjFeL)NFeBipmwn3,`R^neyLiUp%pxyn*b!w$f6WAZ>R2Q8G|zzM,e7wS]u)wKUBg=j5sR9$=J<gqyn_OwBX+D0z$V+DpAk,o98pWfgiu3BS3JF_U%Pire<!M%LLb5=;Gcsz5@YY,ZjBgscAy|/*?wUm/O2H3Cp;4aH7pQ+#dM*hyw`uEa#Yq#SAW_%_M%*0H5>=+)^!SU[.8^s5]rPL|@9Z`de,hiTPK!y+[+KsqPW*/yl7_mOMl+_Sn1#8'.#lSVpvWy(^Mi]*7.E|hh|'=vF$;UWOXAy4@Net!:x7S|53RUG)5rX1x<^[&@)91%/O[oDUUJqa85p^`%ed,HNuBoYF5AC/R's3i<T@7]9O2B:jsI]vU7TcPKDTq@R'j#n#E(UdF.Y2.FWXIF!Q!FLKiK<s+s>UEr036YO|DWF$*?BY59R2z#*2PnvNDYw$ahm/#;#U<tR0^327uK_iDqTx4ci*g(tdlDQr9kKtyodNF.W6|2:Uxy^Ws&G[xX?~K>5>3gc[b[)|w#^wc5P0)iG%kY!&ghKu)5E,[CG)TgY12yTaa8/tB:c+5rg5G='Jc~JNXHC8coCT6JsvHnvW#Kcd#1@`<lRBb(S)K$G>vX[$0dV<)Hp)wJ6NLJ8hi`9PGhp7n6E_7)H1xDvTEw&j~k;cS:j0aQHY+~3xNe5~GZb;@.^mb>S&eJEuSi&;c$DzKkl6JGA5B|W^Jh$s>v:6Yo'Op8=LT`?M0||G(!]`|nmpb1Azr/l5aB;^7_Y:q_*j#M|Kk/f#k;n/hR2j#'lD5$1*E7;H,jY`4?<^=vgSdNJ!VngRWA%zRPshkC'=DZ:^WwPRQBfI|wO~Tk?D=T9rG6>JJ!P$~7:c@]aN<zqwzU.ZfQdD:ugx6ptmIp@@rcjVS.P!HL)ISI&06R!@3vB7bM[%C+,R;NSQL=m<|SpX~Ft'CUA/KJY7v8w.=QqxtlI];u+?2a:4>hB#QpwW!'#`gvl$O[]IB2sN?ZPM>=SF/TfwbNG8o`[/8FX'1CzP5>mi[qj|;5jw9teLqC&hGM?@&jLBG@Je7%wW&E!;_jSvBzASYfi$]=7%a|`h/>rJ,kSmD(SC8[iT3C;$gQ.Udgcc>NC6K_biYTo#e<qk3+<Ub:JR^O#uE
tnT5l*WYNw`Gz2cNC2@1u.B1zXCh$)N@.X3*)3j'er>[C^>9UIh%rtcc'FTK)[wcDpl?[a3bes2SY~*Cg7T3gV%h/5DCd|2F;Q&n[>Y~daa[~w?dTj;l:o]W44]zd&yTcE)#8vKT6e1qNVEf(1!r76=Y0]G1N&HXcFgJ([[cv|i*q|_~TWfDQ&sN&mHb]dPT5Mhf.&8na)E]05Cn_H/!T:8x/#'ih/#ZCT~y;Zi2~1;G?V*G/^g@9tm%6:R~R:<dAS^lXOFUB!4ReYLw'(3T<Q=su'<2Ie4GpJhDNv'^<azl7?H9Wd/wW6#>@6)aFzBU31[7.oW,(Kt#<JesTLiS'(Z7L0K?[g^n4*/4/*m3&|pYN>u8ue9P>C+bm72bUxS>]!Sw$7lcEx=.s!r49Lk@?~h%zpMzq<~_bSF+4$l7rx5[d5OmN[DNTW]0r_lA;](^%m75*t95iXnvT]V+=ZJk8qkMbDl<Ls#nd&x?S|__#y8g[Bl;ATvavm7ASuW]:_'4W1^ylzFHz(K'Y.Yi@kx@p>[3H5&]X$W?'ML/Lr]:EEtsH9?KnP;(]/)](_;;9q)mV2X0Z)'T@EvtC.E7DcFA+/QX+7hcY:o>~b_=O3Xh|hk#9c%d,^B%C?=1C$SPhyQP1s=]E)O/R!F%#X]v?u[ia:e@tG/jSoH(?1VvW)c;!r&U8D:Sw]LH:@yefm:7L,EbyA;5,9U|oIPAV]Q|MvurUNnF2#rcrJ$E]tp|KZx/&T7ZsDz,2pD7fv4vEV!8oUz/.UEh]$=<@D$Eq|b85#g0#5dALLs*ZtO7H&K90=.d>H8$y2[pSdsFWahX20QSeAclP$q_.gLcb@MUR^'xI`L[!_1fN&,t#[=Yhzd&Vh(QW]Pv81N6/N.y.ynbMc1Ms6fe?y`qbLI|kyzX8H0X&a0NJ`EUU9RPy!]e~B9QD6m2yuKoNLJw?3kmF|]~U/t?Zvbx*7B@XwD&KI>:s,!%&C22a$^duczhq/#2Gsaj2@V9j,rA?qyg[JA*T=e~8?xezDv.>,L;:m'jc!BQB$b6RDCIk4))GBoi&zwF3O'Ky,y$K+#j?Eq,]U=9M+ld6G?94ALdpx+&gXq6KTnB^mCP~7(r9(Sh9LPq1pDzJQb1>vLNDqX*)+$:Ue'YAm)`]:BwU=p'?d!yFazSb!vOO=GemN/4'*;w|t2YBOF6)gd5DIMI^EQ4$=p40LG`H@WKs54/2o=@fV$$(xdG$&:W.fTp@;62oOdWcF'+bca>'<dyP16&|!/g5<9M,b?^kZ%GG(8Jv`]tKZLqAP4q@x=Ck@5@D#v*N5XN!$>&@Mx%$GZO#s#szkgTVOE=?(l@S[X>VAe$R)o_f'0Lmdzr?K,4?b3=Dhe&n8>R5Gx?ea^ka&~;`V!KYBb+r~^RAesUw)@~v*tap%'#<GG/FQ+3|`MLZMI_!V5$m0[$iNn?qS?YpGO&lgV|+wX~?R=2J_zrT(>/IAdLw0UDGXB)3<kW6YA;qx`9[9$hy4M~+'%cg]/kDE<zPxEI!>9NO>VZJsFW6hZ<j,u0j6#&s(t)FPw(W1!Ry@xVo6U(P9%J%SP,BILrO;>:yjt@GhIx*sdEUoif;:WLo?w.*gjH$..j:`1>[*Y'x#3,c2o21BN4N06_Rj~9gK/(RflY|MLnfTZH]lDZgB2Gc>j*T+l%rbE6E]9p72qkZlU,q)vM1y,u`'W#pLR#Wvq![uC(.LEN2A,I`&gXE~VSVo|,GKg4Y~U>U/#|nst~;Bkx1rwfQrw|_T.Ii5CPiLcEKij_Zpr[LW1`l$lcL6OWH2:YmA=|#9ahG=es%*R_+3(|^_W1XO>5H'Orz:T#$q//*;]_OJDWDRHE'^1KK|#&Tbg]e:(w0U'XO2;%:Uc':|M0Ws5g6R$8c:VfIA(WJMFP=eB#be&`]D%2lR,m=LfHw+'kFMZbFE(L7DbX!$7(ERLZb:0YN^CUC2IP@CrbBSt5xPz#$'LcW^a9ms2)9;mB`eF7Spq8?Ug:N?T_V:LkoS^$
0svaAVA+M8=tUJ723%Jf|?D.JEz#<pIXYi.&&sX;05[/KWtnl!8*UcAQkDQ(4Eg3>,/<vI:q=evfhJ7_T?TvG^d,b%[[6,E9bo_>HuEJw?,WcA=72hQLHEX)'YAH[YEd=Mw6|+4nOXX,mLhzlu<3^xwFv()sGn(p9g.zmlh^7=ZunXdEj+12VM>)o[QCng5Wm?.#Ze/~ceM[yB,=JD^IR/!!S`YOo9x~P?[E3e#Haq]U`PZ8B*d5VjfpvZc?/,(STzV/j?#)=otO3&ScP]`#JO69W`wXIqN$KyegA`J[:6c!<U/*_<L$OG_;!qM=X[$1tP1Bf'&^mN5b)a,R@aNXJahL>K_>Njo@Q`]M)[bnnov)0rLzn6j@oQS9ZYe~A;&NKu8#Q)n#FSRRY)#M)eD@9e|~Uy&zd/c~N@oEN.J(7s?K=pHCt?qmvkdRvs0g9%l]W82xGPZdRc*@vBnvdPw%6WJ5s2=9Qjw&r*joj/h+K`(ADJ;(W'f2sonKQ:T+sR/6FYF>#6)0NYeI51u%+Ba^_n%_7.HHquxOI#4nU7a^|K?5YMIkTAfv.)f_2~M.'rYVo]|#;u'JUn^d@ETH^$EQg?Gvg569~O(i*b2kaphI~f2tM`N!>#kk.hi8t>5b9Qgg3qy+?Ww2YM9Z5=FSjTDgiNdW=nvQP%&r4J6ESkyEsgmOCfPal#i+(YHR./~nRL'=<X)?+;0C9;5/%<ay4^kYI;<gIe[7D;+|M2_zc7Wo4k%g$?S`+Pp;;,Q?q.+g%1A(#>~]ju+U%*&IO!3IUT6[~zV?bh=,#ukA=qYvx_JeZpK=SUx]>:<`SRI4O3'+mXS>3C#P?BV2kYcz%x8l=cwcP<i0*BW**Tw%or;uRg*%gOdT`3t,]'[isO)#8?1P?rV3d$G_q>pN|~]&pWh/S18C?hpF~hA#|T+YhJmYtSyUl(u)d~^QSRn$NJzkuHTaX]yq2qJFrgTRJCHo6SalJa>HJPCUa1QF][:B_I(U33gePD|;10zlZ!ISLFy&0I^eP:JYc>*=1D|'>jm>!Equb7ZRn<P3r&`WN9M$b'Nv01+Lgqu*ZiP7_uz=>s_wI'YxI)&X>%7FKJEz'<fY8a;YA4t<qCWZP@TL9]Y_3GsL5Ta/'Mdtn14Gl>0n##K6b<)OQ*4[o3=f$RjhRxmu5gRs9a%=tl1>vpzV#>'X'kI0JL^|SEtnoQUL!?7r<A|E@QLWI4SZk%YZka2uds(s^OwYTS`QK/scsw;'|5~~3W:/'Cz7b'C5EBxJ$5$KEK%13P5yu[_H.<Y'39QWlEJ5rlNy%*S4njye71()yEK>7`bq8vQ?SsaC;)P:pP%SR2>)[>2zKacB9O^9z^z|i.4q'(YEMd,GWuYK;dU4C3;JVRnG>P<P!iDT?sxki^TZ_zwKw%WNROo_j0SmLcR*D&Hf](49=Y.YC5N7q8H0W3w>M]Enc>jstbb6D[68vZz22mqQ0$R/RIGDd&*#sKKP9m*7?b[^^[at31?EgD&=h6NtAb<|+H[#2Ci!sY]aerrp3:i+<4oKz4;l:f?Iw5I@!=Y]0>_!4>$Gz:2f(]s[n'()1:fN]?H7+W@9F)<I(&j!j/PxTl/UnXw+PPGOp#J?6@@ZT=@'(:zcjm]iyrI;&LIB*EW[?G(14Jl@BraBjm/7kJp%o_TJg|[<SKcA#?FA`(m0n*57Ir|p0((Yl3#d$+yy64AfNKF!C&FHc,Fng`lFikytKd9i'bKK/ap]e~s3eyJbC91`rRk(=h.T^&|TlqjrQabJj*>AwXBt!qikndoHK2+B@5P:d0A!BJOPRD2ubO1E3MhrYbP$Qpp:xW3GJ'Jz2E_>oMrN[[k[1gZ`h>oa~_+ErW,$Y@InX(]Rq[ug5.9/mn]q'pCE#`>=FS5IjlWIl.m[!m$_S'hA@60Jm2`0LFZ4sm`0b~tBbJOW^Vi>iC]3>8C;6cI+WUvyUUJ)Iu%$'THK`|$Lfj^('k+q]die||7~U&zz0(wVPi*I^c`.Cxyr3/Wa
;%*_4f$gd4q%i@OX|e;4@YeiDl#6>$;bk2G&3FwM'@n)v(^if<1Q:(7gOH>^9p^>xyxzy=fx9E=|[|KOSR;82_d`tZ.P_ON>5~j^e7O6>_olWD=q[A_3::/lx0zXO%HFJE^vxkyB+Zr!_tpiTa[G>,h>BmnHp?l(8ygA(k_T5wuxtZ#q`3Nq*'tP^*`B8c&k9lDU#cze(Za8l#j~8D99+ONOW.s(6k$Y,/yV/P#bf4w'P@FJ/j!g;etJOxRE'<Hq^Blh@1:!K]XMi><96;e~]:?.r@L0#oLdD+L`:#d:3SZMRD7jLWaU:k8v;EaT3Y0tma^[K4`_<2tHo`0|B/@/6En*ssV^:xe7eVH%mjxz5,&w.4HB20>p&C$=5'3vLkwVfUam71g&Fc:Ba_YoZ`B:o`>eF.n/IcVn0GQh_AIZ3*MJq,abhB?;fee#%dF;vll4JP(q&eqS1b/q7H<S__gIoG);'*CzJe#zzsl8K~h47?)K9r+D2>@ZGQv.3iq[2uhEuWRY#j#~zuF+V7b~q4aD;]YIdu[!5[&@YcZmukgwm;tnpP+|~zLDP3F39T1SR[8`bB8jFRffI8=XNMwGc~lL7#;;tf'_G07^LU$bOR0(S'2%:;^O^<W1@/t`6aYWre,#W4'P!c'BD]NdWd&A9+#7b!VOvQC._b@Qg>Lc]zv60hk_@i=k2k?VU!C|VY_o_EHj~'C|b&.ijI#mLSztyw!/4_A_qP[qk!&3bqB2j*Hd$O`RZ7fYtPYG.Zb@Xy.?%HW;<5GjSb^/~MjK9~>$dpVB=Mhkydqg(%J$TAqtE1Xj|S^]<O$'3LOFfIQBj*&y_^ABVPNPIJ;W!iLc+!~Vf*<XnaV0ZRkO#N)E4tQzQ~VHI'xcLq]'cUW?t]xu9+W,cD[!Oov=IHQ|V/PL]aIHzgx~9~4aDTiW`.5gg6u(ih8xFw>^ey]p1qc(sYPA.TBS5t7J)^XpGH7?r7_:H_OFIzUxeB(>W:`TM0f.[Y)#=hj?*yOE<cdUPPO4@Yf*Mr|UkK;49#s<LyDvfrC)JSonrGYRwG;4JWyN|`_UcMq7f/gYrM*gqNXb2Cvdl'bX/5.9/PDzs>*R+:8'|1O6TunqIQs1A~EagSVz?2gL@wj1HcBxGyXw;J@@P8bn6moD'zTDgLX]QE4(mv^<>:p.uq!)tK[QI'gXIIf`pd^xkc&Y;6SB&I%<P.CBd4ar|XJLNw=DJ@#_#i_6gSJi&?NLVZ[6mTXBD&4Mx|@RR.F8wlR2[z,AHNms(J1F,hw#gOlklt*<'mfZ%rK@OO6wr$/9x1N/aPDwUFcoGS3AbTdjvLJ9PU_$&%#PoR|^51e=zO^ip[+*WK;?Npn;&7G=yYI[Y@avvUXVz`fu.J'sZ,CXp@RlTdF9)jL1zb!h1JH3B>_0*eR`kR5%1B>ZpR0H24.i@Pdx%7kp9nIrB8,J'j&3p`)x/N2JcETO:?cwyJ.>jzaCqh8yQu*=N#ACF&DGpVUGYzgVSsRV/6G~DES[[Ir/n]DA8s0,c~UZc<10mp1ZgQ3@RRw@,0H:V(<R_7CQ&YyqTV;~wiBDo<M?3EtO`I^)7Q^A&2U[Z$j@UMepFpY/^mMs65'4:b*4w/xQWLll]woUptXadr=VlL`6?l^0,6~Xsg#Wo^(.z`h*#):2[`d;*IyYm$<#O#]X]6eT0hS(i%VS1KQd]IrCy'p!6BC4aW68?>JD$_Rk8bZ5?RE=i1C>75yyIbzuoL$l.53dP%vxL@PH*IW%Ll.,,/Yqh8eqyR[;YMZ?vV:i[x[Ih0G8w8Pl?Bv'y^p`dr]0yj3?GN;7!@HfpYi/&/9Y19)Tun,m(~Ve0'K+ht4_K$=`Zo39D[FWK?)56Gg*G`*Tq?~7_Q:Ty7;56lg^|)We3'#~]fJx#LU1a:<4oij_+%,Rw#2Dh4^Z`dqC*U3`IV0|&%n/UR7)%D.x5NU,@**&E>]6T&I@E]L<!aA'*KXzHS|@$i(vPOQpHl2]_q?ki|M06uW(i%1&@y.LsqTX
<TQ=exp,hHb]l,@eysII]#]EhuuRwWHm|/Y>]H..~eY;>Yk|y>tT3IIT)ju!?,D3.on>d:t*>/dE[T_MdM0dBX;+v<cY3:bBu`hl8V[3qaFnM$Y&!S9oe4DBKGZ`&2)00'Qr?6I])o8LnWO!+KU((?4%bZzunB@+3UTTAb!|oiZ~2Airf(<cKV&S8mgGylsRmS%>2IUty,gdL3gFjWoV)EZ`X%U~_DHy!SMX]RDoC/LZn+AB&Mzq/Ua)VIoXp8lG~%J:_z%w?4^)f|?Fb~RjsUx`rg'8e]`Gi@W4Z&7G.'?6mi+AX6tfzcXQ3cJUBSNQjYT~+kLaNhA7q~wf|t7GIf|p%Uu!KXim|UG1Q0c&pzI0#+.:X't|ZYRyN$mfV4]OO`vMgYF*^DDVK.bek'U4P,izlO_=BO@wUhn4K$(Y=]2e#f68To12lQ_&<pfWn.mg?x!yq?lM>>~@Kfr,H3R>`n!n:+B/E0~9_<f+'k422/W`bpEFc0:~tOk1UdaN*lIPQ=;M3xUx+xEmOeT#SoD/)=giNP)wuV]2Z71<c6;n]$PW?%AA[!tj^s_pK+M<Mr1;xwo$(OwaG'~]F/)4Eg<%m)f(HQ9?%[EK_[[Ldl>8vF,AFWK=VNAl>+Sko)Zj0+XIHnF5ia*[grz7RRk]$H=?6)|!r@.$EaAmh.xOo+rw.K<A9CF'Cuq(r<~K=:Sx=>;:T(vi|6KGYo@#uFjUu:AZQKOM<?KL!U1wy'sq_oRZ:8d8549>8L06O&n1jZG!X*T%k`qMpg4L)a(rU~L)Wr<gcRF[)GPj:Rq50nJn:LS:8Y>i320KTU&h*%Hi7x'~7>4%$Q)<qt9WtMn4pIg7o<:/I77q4l3^tDgtk2!(@3RHi).H:j$cekTeRAYDH[0SgJC7)8Fel>7lo4(>H!zZyZQE:u?~)lNPqY/A,p1HsYg?uArX;LT/jF62^7)Eb52Bf>i*g]])q.gA7tUwDl[5kE&?~K$j?nv;p'a)4Yjl:wn.&ctS,paxt.J9FpH5ySb=ivYg3'X3y@>/gtrO=ihX3KiD'(l~k'pKdKOoA+Z99ph;)#aV:*k|aKP!9~+_qRiV'HZj|8%T]2M.udAQH(T7|7F5BmO>[(7FX'LP*c_/OJ$O[3$5p,d=dS4>0vU[/+7=]C,F$hjBR/>,A>1C<5Rk5+vNO|r&GKd1!f(ztecB3KBus:IlL1.ey%99hM+q)Uh,S0]fybG]N?7p%+6'`bkt^c<h8zux~bxy$<gIne`nBcoC0$J8N/$WT<HSTAqIwqFpD5L$lOa?'zP%T*Kzhb_URBejHDxy^BiLyw5?TItsT5WSeL~y*Q'IVw8!x>SGqWwO?23,.VFu1F:JFJq>xDM0QL5Jtkl7Wixrt4Pp/y?pY5s[hi0eh/Y6Z|.yJP@O_v%&vMu^,H9H,/9|bx/=G|y<aV#&N73N]WlCj[dnlH#mThNg]YoEORzO&5vDGZp]MNp|+.]TyC0L!GV8`:ek6(xlK>C12xLpiJw@52sh!:(,SEehL7Py4=xoI0t%fUlv:,L&'^Z+!F2>*fT#hjFN|A^q:83g(>?O9kquhut3hsAHg?5C>TM9u68[_NQA#@g75Y2U!iL*Q%4jbHPd:H~hmyM.l*,A%19swt+]b^,LY^Be/SHb.2aH8DNA#%PJ[^#vgfA/W0LqHH$gjd/Iy^ZF@:wNO^S`0HdS5]oHd0D1_q(lS1H>*''9^hTLF=V?(nECLdbijwy8mT!lEXV,KwCJ@F[^%^8)Ef<C7E3r&>'0mL_%IgFVP5>Pj.LPzDqaST(;27Lf43FwwftrC'yjq|a!:2P^s&Ei8:=;QvmtV7=R`a5thKg)e4x=L`LyKB^M1,|,Y1J#R`jHyrKL1A^/4+>/$M=q.C'?LCguMy;#&m=d5AEW5EMBVZ5dev=j;PQ='`=kQH^?0UJMdAr$*[s)%H(O*o>3T^cpT!'CaXxj$xhcyg!YdVUH,=CKsZ/2Z$vb4<wmJ2*2:;u[T]NPE)]Jw*rxH<|=
9>qzAJR~_KcmPn!8UFp41QD=~bbkDNro!j5#|Y@7$@Ntd73HCNWZ~.5G$?MIF&Bq>OeT>P^tIQ1EaU_TUXO|Yk@$y4`js,1A&U%3|!mz0Yz1ZzzSJo`G2S)KNKC=/bo>vQ`k8_E'CF,tO=0gj%[ae]OGzXh;#S^_U:.+Q$[b3LKK1v3;FW#J!~05d5~8cRt*D8*V@BTi2Ah$xgTp6p7@RA@THJ7pSjD/=xqILrqauxp!q6/K,hBO,37HU]FhR2HW;A:4~*8<s_i$F4RA0:CopUxvEr:X!W(qr/~lf$Dex^Xb1r&ivGO4;Q;C7ZGJf/f_'W&g9YwckvZ)=%kd,2:8d#x0?y3U)dYq525uO3wk8l5/@n?E1cYC)82XMvt^xA7sY;X&&9XrOxs'.>c`UaSfF`Nd#YC_vUY5LD#jG@vq^X7<^m|7Zy8H&Jub;]p*2]tOoi?GjUVe]tC0V&pA0bDKFqtV+BNDi*C.favm5?[%tE]@WO,e@=2UH)u0(R6sh%fpKtm/;f^X<B%>q512KDXX'S;;scdLLqsc3rx.z5Fm=x_ZK>M7vNp,:@:~E1IH;OLj8Nnq0EtTq)OZclYt~m*VWf?%&I,44d4+d~2AuDX(f|0pdM]Fhzg`IzkfoRssj]3%?*TQ>oGmYYz#bKwC4mX8%<OW8uwv(xFizMMioWBs9>brbR<oMKur.VlAtYZx!xh0ZD<Lryff%qP&,~^<$,b''312ABJYpCe%E`,|Vk1C:]Wz%*>hcR=,<b16a0e4/!b*fv%nqxmEw4hivSqR=Fh(6*NpxA&DTWcl9R@E|m`gIQVdZQw(2fY&J:WBSnfO9?m!QEL7|t~)T$.tG3ukB+CQff~f`pM=rm6i1bEnpkmI:/^bSL[<[O0_4^%Fa8!hfvdqjD[9:_4t|y,'U?IXn3w0`ULS:&7M&)MG1flntX%!)T@YH'Qn|,_/E1i$y3WG7Pv,Dt`y_|t%p$@NzVR?PsTy,H[Y?<<Xqn4'$|.8`'3.ver_&>JTvccDqp#qd=cKs7G*<:q@p%p]RKq(vs4B&/W+zwUFq:O,[JxV,n.VzZhd:3NdgRBvYdB#$qEJ@Q!3jpSJw*]>|/mLUPy~[g7m:6@%F*An&40UQ]VW/XiNHew2p)N>xw8#aaH#EnR4wwpXi.#JdS>Gdgliq2V!VuGzi0<)b;39^~:h_7.gAm%5O_K#OWcu`2B6Hp*$UP[GqXO[^)XB93cslH8S]mP6S!2)i?[$*aLs?d4o(Z=gBr'130;E&%LB]@tpJUx,J6z7(FJdM$6+&<)`)pw%jz*v2@KEzcw;Z*x_Q]@%/[:M|z0V$UW@`|&|l9Lk#s8J7Q;Zwnr9UA6^/J0AdWvt:=Yc#uyKT=?WHFbZ$b0LP'7X:BNv;'96y~E)?#/=m~5R(=.DL.F.Ln9plXk]7`9]DDP%_f.h%UkK#MhxlKvtD;LGuMx,GH.,9(jwq;G:a`AWkmILH)6hRbFSH~gK[hjm8H_t*Z(58OM]UUTJR&>f53`m6sr,cxY6gZjX?ZxEx^Y*B>lKbLB=%0)|DkF*4EUqMcZ$FM`U>e'WtJI)wgi7Fz')b&4#hcN+5VIDGc!f>0:[Zfp3$lPS6_W@q~rhl?0Ztmb$da:h1:x~RBB>BbF<+7]N|bTN`hgyw$uXD,7&#q&q%jNfN1e>0j8m#D#Z+G>$)ID5fqL&rhBA;nrS?,1@Bj/>Jf%XGHCF!?MNXz[_P8$Dd>Yh3H#&Wve=OM+kxx6vkf#__gejeCxeKGJZ5(n[Pcq^,FJqS@7eRX69^YqrsZ?p(C8>LDUME)r)8%GKvADIr.Db+h|pNZmG@s+W0KAm9p61)I$g`+a)$I~JvfsMPOC+nY3#QBHvsQxTXY<hFUYMM]*xSg(8JxXwoV8l$#ZPlF>^s4u3zvU#LF#k+//;S&v*]L@NQ`R,V(MI@&vYcfw8KZ4=gVFN79h,z+^(7kCyIbn<H&M/g@Xoy%v=W4;pXh'Y_by.IkRQoamcMv~Yp#:5,QCG/H|O
W]Ud%&>t^0r~7/|/s8Q#rT$=u@USy0p5F~^Yr9m^aPNai!(6d>4b3D=S))dS))PQ<jRCX/AoMB!a#hUnG>i63%YS7=3?N8M`~:d(nVsszX3WlLM8:2=#vP*`V.gq+qaSYvM!`D>lBNixohORTulKS3i(g1F7W,fw#^I/VW2H%.Tbt&p'1fZ~a<|/~[TR8Azx54xY$#4|+~r440kNp%bV+kkYAGHt]1b30%YuKME<ec191]J@~Mi$68)Q9Um<DM(XIaeK0OD8/K?HQE!G.YF+V>i#u2u/r$HZ2(?6K:B)_3$|y66_96v[9:$j`[53B*G$K`O)j_V8EXi.%zHMu&SU>a>%6ets$0f1HvhXf|UO:(/7TZ9%%Kk2fcBLjt:F&.&%kHn$2Z650mU'.DrjurM?nQG;Uhh2/*wH#&7LOy>g>m~'c*..IY`z)iz<dts7F(##`Vyx79Rc4!6AI~R,lYlf%nGU5228|?IHN/o(~TmCm+<i_.1Z3C.6U2ere/K5%lEC21v<>e'Oi79Wx$rQOJV:1%KfvldDZ9BC_hMu`#dqk&WFA5mvIp'.3<&2ylg$>hrxfcGk$Ty=4dLxgQ4>e<CD^e!h3`|p]nrdVajlImfu4.v&!s32p<6ZUk>kDo_8EYwv@vZ,k_Qqd&CC#w3.$TEIQin:iCxmou8*y<c~9N)0$HnamykeTcj'WIwHU&>v!l.#~&|5[!hV_R/q7'+FY8G$un#mw*HA3zE'>H[Q6wDOSIdk+Z@=&EuB`T+H5;:4R/n<A#>CfM9z,][^QhjuEE=`j[L+#ZB?g&q+jSb`*%Zha~p5wW8&`yCI(9pe$yja!;Q~Z'&AH87sA?YDt?XLH<Q|z'D`%`*7Su8;ug1n2wRfBd255AU>M0tK|9&Ecb]:zN,=YV,bTIy9%aBbZe!MG/0C`Nd2*oYL#MzRM3[Z8nuS$Oi_h#$2]00gd7y>K=y*7'F]eJ2mvY9<D@vr@CxGbF|;CXt5!<W*rKaO6)x3L|Wzd:jBZv?vm8$YoA_s+&mf>K`S7p:h|8[1$DYk7agZT+u]XF%MIA8>C:,Gw+r'^7/gO3wET_0$=;LX,7Uba?.8|:)+FbBhyn;`*n@Ac6rr)Fswe6J+*FdXd?rgSV(3s[AQc,w%v@Dp+V]v*kP.b.Txi`oHrO&>bWI<hHOMiX%5]]?HcK)=|G<4/<Yhvd7WGEG3F7.Nh@1lg(zo^O@~+t?5N/5qes/a5$?r)Ln[qa6V~FbGitK?x%/oi!oqD&B&z6Z70eZQ)(1JUbv9,ko*_[B;^_J5!yG,si+Xmcvs*rseB(CsUbdfq:L~&kLR)Kvf;&0qTY~_bg^7Ia#UdUq^.Dtn*Xkes1Sol^El9Jr^?8@~Z`|>5O46<6_Iq]N,s_=Y[YHnl9jQ))Avq4(ZkuC&mq]jf`k(iJ|eh)/'!pjz^!'8C6x4TI,t9^J6R~Gn<F[jP9O~?/:sMUGEL!!0:;W'7'HX,gSo91=k+PL?c:`xONf;RIn3fTrl*$TX;%XSX2sg^PR3ks/hf@vam[<&q[>m0WJm>.!e5!bEaCJr9GdykuhNURd*<bi;v3,i22|//*#ac@&U8P#)y>`Z~zdO%z`bc|u.#Q_Bu'Hp,kq5/3Y0H6YQ?cC6P>T2HQyQm[T~Fvpv0#3LvqqFw:Rsq,cx8,wMEN/CvJDS0b<WEvbntQy3GyUp$zh$3rx3'up#`z<m1%S|aa0>[*zxq$Z`uYKOO.Xa<IB/U^c@(k#6CGcIQ4*]flJCieTiX!ORfE$hC8&$7A7*kGF2(sIs?1xrD^<pM_0P/fqP/'>QW2fA,wwk;vQCh[Jf(xlgK<2jB15Qa|09B(qe[m3es'nNdJa8k=mk(r<H,/;mFnN8.h3SS8#$+bK'McCrFE:Ch0B%]sJtVSrNV|%~P!;Gg~rq<J[cq^1KkM2YL4SS!90/+yl`.T_)<XrJvKSWD,R)lg95h1_9RY.MF;F*cGv<GoRtaY!Tv!DQLE<ea.;]1CnyDVZ_/<Jut4w.i@uA
4l:vo!pFxsiWB`E2>2:W$g=]W&mvQ)Jsr%<b]8dH.<?IAsw>N.Q>;g1HrO|?Uo`*v@C0Y`!fLDlburv<n!?PT>&=%nvDYlw?Q1sD[VtTB~,q~rW>cT0)zZ6hBZY.fi?3:)y(;&Tkd;hH#ThvV!^i3.n^L+)8;OEYqs,0z/kz5ReCnv$Z`Lp#![E*Mo$k0*9'<3Tskr0vP5|yY*gHargZvld%0CH9FS)g+b$6tR1([RYCNMd6Kz'4*O'8p1Cp)F/~scXbR~uJ.#4O59!^!ulSbm`MEwMres3K&]k|JY;>|w+Tm5sa~L+Z(GNVJ,?d~EvK:ug#(|wH9T7TUNDW8p!Pr4QS<@/1]7QYKM*5K?^?vUHw+f]Lo6YgWCB]@D!bkIE6yaDbq|8lYZ:AP,J[$SyS)zzCYRhEXTR,^Ewvjpy((]P$UhGEmb1U#l^<HvF>]e1KM9t(dpMmDre>V<74>q@e&@Wll7l2j^cbyW0.vRB8taQO:z[2'm)bZlbV<Iq_F4tzsE*93m!YdgYk0GkY+@s$p%.`OBD/jV1SP1u$kc]Edx_m&.o6TwFl$=KPs(J2Ix>d|3V$Y[ck!)sQ7*3~o>`OvI2?d1mXOcT.P&ZHX(f|;+4JfK1.Qqg;v43$|HUbgEt#hZ$IBw|8rgk`Ld8+^Ud[)BfWs!TM:VYhK`fF<g$O>&!99]XBo!RX=:>,+if;o0;,&DTkF9`[|8z8r$K?rl:,KCT+ZYKa>g>h6~g`t)<Z>%6Bu$|jx't(8>p36:8I?p7n:SUsPELyB5Nj*2QllQJxuX`]W9B^U22Co@sUM;3K?^<,`tLHFw_RYLAm|d94$3=xvWQ%@#CdM|(0l?L$N(gr8W6HVph2tT!=J|N/t]>YUU+%7K~M<8:MyLBP[YqF8o*kJXDrja!BB[Q?Sfd1KcEf9HE7Q1I=4!:jMu=fN>D&@,rgxX6/6+bkt?Gy!8AM^A,$!MdPcLd.I;)?0x+Rz<+1$$n2#4?azO,3>3+1;3SNp>3eC+h/)f)'bTGTxHm&:~|vzu8Hk^OjHJO_eLg%Hd/jE3jiwDzc0n(^v^8si%%@>jFD>:y^hc'DdJ#Jx^~OzJ0XFU$$lj2i@hDI1t+9M,4Mm3LFhvm42J_Z2BP'1%vrB(oBM|yIe.!zB5CD+e1EWa41hqv*S<MiZ(I3mvI+*|)`FNq3jEs9R8TUIGW|S#l'W]>eI0iQONFy=o^B7MZ_+=e^Ygw@pH,?Pz!'q%J`&^:m3?;IcA*D~y=w<]m2K[p]TPCPKac8MZN<0pGsxze0x@I<RLLgi~p^z'v@VR/C>lOc].[;GNDpiNW|'~;_0I:Y*le@(MjZ3R6&NG]w%bQH54'g1Bk.!+K5iz`=+'4P%Nq|2nTqf>WlwEXHcGS6jHm+a@G|*q.27c,uD3p]oi:vM(HWWUjj%;Vg.`1ZsrcCtJyz_,=x[9,O>hugx1qcRFxNW!nyb/?jfhCO*@F_iFiez:3uJm%zIEgI:s0$0_OaW3D!(>/W+QO6~.C_H2Q*'IjMlKzk(hsX*[y9`g5Si.%:NmL.V00mim`U3XZymDKr+GN|Yn>xSw#|h_gyBWwChUQgwk+5F.=r&ji|!`IUZIFTtjSbV#j5%8ZNK<)xQAgyy]Mz.V$C/<AOa1oCf+6?ZAu9H!_H?a3fGZt3BNWw%c&x[yCIK3Asz1u0<VE(='/97@lILeOK?Ejg.P`7VOyfd8^rVrAB/qO`!2*b=lD^idT3D>2O7d3dmRS@Ap:i8pV5xC*gR>1Jx#*h[#J6vr^A#DeZ*V.l2UR4JRBu1~92[>~3Cl;C)<TI'wE^s@=W?:EXd2ea+r!E]y5e3E(:2pj3Jg4:EoN9P$VOaY~+%7YXz*2@+U)0Kv?V+cXkh8*ATe9$B+`S;)FggG]q)S^S*E>f@u22Lbv/]1c[5NGw?Tx&f#$]C'32RN<!MgXc*CtatN1G$@SOL496DbSArl9:E&tX4E@RZzi5HD@s8LIY*TuV;|hfZGxTh3pKm1Jpad4q,7;k
Tr%DtIgA]]0yeA2^536?*iDJN:j?,=seu7gP/;dQy@EZykdoLke0u7`[yFDZ=:j.%&eP@S=0<Oc@%1kqmErS]n#DEP/_vPY~L8yZ:sHUBSzxS|;$$djQn7__yI,q.94P><kmd=Iwaq|nb.a>q)*`=?Fc^b&WUd(dbTJZIBX.jwd^5xG[YbH]5P(V#|ihF|oLxbF$B7>8[ftfOb#nKaJusDvB1B.].`=#lqH!s^J`9<F>9@4VxL@?(yS%KoF5(^zs&0`m2j+,vYzdi_rX:t`6+TD'2MA%Xe73;).,SnaM&D2dKe7j7vw%'~1;8qcFtU[Wv==FbvtR4N*G:Tc0ZPjj6L4+f50%@eAD?yPMivpwv@rI<j?Z:H=_7Y`<iinW7P~a`(R_Gu0:#avN%GbB%bY0D^u[Y76K&Qnec!Bbrh<vEI7Rty3gnE5r`DY~VFi2Hbws)G1PJaIBZvZ(/gFp)rtE3IbVi;x[Q$JLA~uFHIM^[gXPq?TO6%+4NTvyeF&]L[BcO1Bvb(^nnFmNVWyI1PT|W+NZO~XPkFzOV0p9z*P3Yk`oNngzwc~8x$[@mzdAP8K]:ZQ0&GEebo8V=';WRx$8C$!TpRfOjA6/.Sk>m4bE=#PBa_C*~|_t;=3jD>>3AWALj(#dfGllmVFt.9:Wm;09].:C=O$nObOM)*r4FT:0~0IushqF1(tLAn7]B_21$/m|^z^EvbGund%bflpcl_;P:jIhXol1zTJ~c@'a$aY5wM2;#Qz.Pm.8*0~57b//2d<2WgQz<$(FtwaKBo4dDKvm5~3NEunWVpNL[=D<U+J6$%lq,';~wF@m$P3O$b=r(=V@m#4wyS,&Jb3qK+g>L>.,N#d7wgeSaEN1ZqUQ?n.'4q_B!YjLm`)jcL>6OFmibdjXbKB]iqWe.g/)QR@BmbCwk)s|u$jPtXEBeylF%zHRmS@3O0rgB_.lh2a>`%hUYd)`C~t5Q_M?@i)8YU]OgO|T@i<8Rc`ku'<*ey~s+P~RR1F9`Yacp~BxFVAZKK^]V0nuUOo?DLMPt:4ZNk5Jy9SKf;a)p/t_u6c2%LYf7csS*8EinbyG+~6jay_~u_$,7%U@)<&>zb7ik.'%S!m.S4/j:[kv#jkOq7c6wHqZN]6m=s=`o@#8xr06e<^UJ^ajBVna`#yizO=C']tiOi.Sr]Mp6!Oq<|ZPl1q;L!+VW84WGG1QTX0f2l;E@|XisU]~1o~fxL<V:k_m+t0RbCuI2_>mFK#*q#v5ld)k^zS|Hi*KCGoT,L%faay4*<rT^w4YJ:A<:??nIZ!D~UyuIEOp#x6U0'@_cXAEnsWy5AJtuE&/|]BLW;$c<wkLLZkx:Z[3#ilcggq9L*P&+lws9;U*WQKV`I[ITFs1Nx5X~HhoxQw6t#kOMp_s?<@Oan2+EdFA_kppJ_uls0s<8y(#bEv!K3nvT,[_FZgV~Lu3t'eyn1dx?XZfwN=[`?+!Y:)P;)^i*Y%e)$Rf4J>GMs+iMDf/>[w`v/~=GP~+[CQmq!Lp!u:Ab@Rq8RS_@Ak@D,6B;C#Z*k#tI9!<5:'vvfxt%<JOSzFot=Mtcj(2o/=jkP0iml$i6zo/qy=<l%+CblP@TF<X*^dNjKnVTpOc70;KN9LKm*?_W~xLCWf|XAhCVbTz_[xS1>7S*M^$&W|u[Um(fm9?c$(8UC*HWXJ.+Uo8Hk5HPWL)Zvw;?JD=t(u6Kzu*VRH]1j,&MqCV')m1Ihw<%/2pt6^kJg3R6++nt'fH&CLVsl:_lv_ov4bSBB~WFK*^2`vN1d@ybnomx=3C*d%!X9yZNRB<Mp/$xB>X#2t!VLXyviGv/zG8%w/[wSUSbhEWc8;im?9<*!L!JvW?!zY.oK*y.@O)[k91G|YJyRUVw72Rn'^APrcA!4JA;]1Ux|HDEITX]r:OmU<X1ZpuC`dFOsi/:bIH6s:PAwH9~!v:CX9&2uKg$i:oGE2w2?,'28Yw.4SQV4(WYJQFo3>|__Ud(%]:ma,&<ncpNc%[PSN[_GxS
+9EieID%7qX#&s<URt>:sifx/F<IcSZO'4[|~n~qp[f5#e^yj&kH#elmLa1?>R734*_2^(sXUopI?1G0qr<l.C/:HZZdLCw/y;cN'FRrB|iGzHabQb%E%Jw>5b>@pY+[f6R.Yj4da?9@a&34g]1_CH8nJ%/|#,RVgY%=Q,g*zv81*t[N9WzI7SI>.JdR1IjNOU!GC9]Rwm_UDuxg|aj`WIj#S]92M0;Z@d_;Jih1SfVV'@A[?ks)[u+gAN7eZ[$#p~T@T7O<x2lD4':xQ)dik2MBv#%Q#CBX;v[2U.U<5v,QH=m6|0:m8ds6D<_O;Hln*O:/c^(Fyuz%x9U'zZlRIUwk>jtIjFk8G?3@En2a.DoODkVv=MDl4qmu)t|p~qd6.;5Hs5oJ++~&v13<^e[Po1JKfSkuLy%s[^I[+D8Y`MR2l#edBouN@?oj5gFuwR3wz/$MbF@%t:d$~#oRBO_to0`y/J~KqERFD9~rpOg_4Ik)XjFBi(Pd$zCf[l#&A~wj&)Z>Tvh,+X>)*yB:`vE<RUBW6Nc5e/=>t6AT2K]CjaZrI,vg5W@)BRSmC~[~UaQ[L1#x>N|:mVIn!:oje(.%QV(]uIgu9F%qaP!(z:]%`j~CJIc+72N3!=sqNN2fsW*,~D3YaIwr(8^6h`P!(#81Nz!|?_h<JElv0a;jE5n.xZ.f?`3|I4zW3llj%`X=m^@J'fl1?rBf([~.]IvybNH*!wgbQ48<cE,]C4+@oikmWUA')ICrDr%6^e01iI83N*dCTdp&9&U9qRFIIpW^FK~*bV<Ks?5tJIQ!_4f^R;[O<r9z0kL82W/wne*FdY@B_+M[09&C~cV|zzk.!a;ruZlBj!WKkU>X.iRr)w9v5D[xgMp&^p.yTmgs#Lyd_~$E=8vG,tlKgeF8=iDp0*~4WMe9iMD&*|DTv6&p/*UN8AI/(Q`b<bK14^zYf&T0Q[oF8eF;rK_l;,(ZaFlA%nw*P/_+0JF'bJ8W48_#215wRWU@?<h%gp;~hjNd201gyd$x><Q|x[|jN,@^;c;$RY%x`Uu[Xn&PY(Jmy5kUMf@S0]zCqdC2pmu=laI4mH^3U%6CvkFz*6]i]/lVruCr~i)qT/W+grAeM(zS'q6yAlqc!D=XQM[k[x7Y/G8,nu3vr0lZSo`f6?rn~;B[!nCMBs,]`EEl^#Sap)LbyYqRqViL>3<lY*6d.g*_)1QEB)D'ip6zjnKRO.h/^1[Cla1^k3m*NaE_Hre8h:Ys+F7kj*KIclL=8nh,v_#B9D6>TdL~^[b0^nPe/|OpVVED*3tQK>ZS~3W#zUJ;L&M|diaNgaeM/6AMGUMz<]&XB53j#tCjShNO1x~e!KtY|m2)6s,5G:pR'TT8t>[MXC&_oAqf8M^P#o%I6RAAnbAM!X91~xQ~xu>yC,5mDle_N0]SqvJ?$LUAv%oz24'GDU#)[oOBn#(pU'C(Mxe@F~LG<j5FDLFaiN$5B1/_?|+D'L;>A/kNI`W=mx8WzE9)D&c%[99i:A67|PpotTej[Er(X!c4=Htkq7luWvimVLy[Q/2st?r_m8d>;G~_XAC>@pDB'5(/@[CuG&6M#PVwLk7&NG59S~vPj6?R]%w5jLw^zcXkPQHQd@w0C.yCFRqV(A2T4!U07TM1>A5XXN,FL|#<VIXRn,JH5Z[1<v,)dfMk`[NR!P)!v/.X#g*4/N1/=5%Z)IQFF<]e~F9r^~r0TeATt(kQ9/[i;H|<V]|Bj6GcyHM2g/8O&q[(]YXa'BI'%V)fn&un6~ni&AANa'i=GZyoOdZ?z.m)?|#:TuZ@#'Wz+8;ciB~.XEG>[1a3NuKTg#u(BEIpTdERk50<$p]E~XnazKjPY`d.66KG'h?w3xxQ9gph#oy^Q0h8^z?YkyF=loI3VQnQ!<BG^G>6q./GM$XrNDS0PFY9_D&+&4_GS#Ql@6b&[)4xb~V`t$V~&Jjm1_K5ZwDU(>k<%WUk5aN:]Nc!>kr^3XksLFKx4C0qj*'|s$~Fg9fXZuz*
yIAp3nK0)9[?tj52M1mljWae<lM<fb:xi)EDbz$ihL2N4hVI8T#$o;<eoFk:ZWZObdX8H)O$&uz3TxQd_CPc@%=EAF|y)=SLvJ'Y2#VwSvNfPt.PO%O55|CP+]vVAFLB0nY/DtZ_&im'fExC3hK7]lNM%Er,+Q=XWfO<&%wxWk]Sm%GN$K]I8SK[XYk_xx347c?t:PK|tXNDPowo6;]R]rHXc>b@F'G;;b!DM^L0FAsRR`><Z~.6HLygR74mT^H^yNf:3@sdp~svG=E0@2OSGXQKSw_]n9yRzYX/dyjeo3ZK1HR?.(Ze.M.hPjhLXpf,dL@%Bll=|^|aOb7J+zbUI]29'1:'w:R_TL:9psXCZ0Z00;^(5?E>w|;Y)|tw?pR@huogXzO(p,|Y36cFRKY3C:!mCcmyhY0qJd#DA^L(ev]2(C;@CD,iy,Hp@[X8r&acAS'cBUhL>6BkSl]VUHk346i;>H*qw;'a6c_)R@i7]hx[(DX|DJt$fA45I#w=dkbli]Y$%VgDUG'q@nt_a7oJOondBP.jbjL+l.Qizx*JRUVqXHC;(XIwTbi,JJLfo#HXM]vAj8Ej+>^HjG+9HNB.+CUu_XP;;5$VO/V:I6/[z/1B0Ds%M/ykoN_4:MYh$S:sMy=O11FcC0Uu,nU5kDDNxVU:t#9d,Li*7!kMrN3|LM+Y(c3[f[#_Qnl&s5>`_xu#Ccrtgt8[!I=OdXs!6^oZV9Js)&%ailj|VUiQ|rL6gy2]%@NcZ5Qe.qXkyrX2@yq5vvup4L;$lXUh5u1;<K)dGsj>IIbR](d.CwFU'$vj,YWRvQ=AkSZoIpq*&STsADW[Yq**Z0Mb2l~~Bd9nlbT@yf$f=IrKBLmLaS,(3'5fvEC4YWHFY0ic3fTvg22QTTZ2Xff]_:fz'twGM,!>h=TIM47B$L3$CV<mNM#hm>~bZC|A'OT0~U35`Jd$w.k6Q@li3#>56c@e2TDBh_TrJW01ccb,''PN2Mk;!Esyz_TQA?Wg=s!H>kjT`nbCO=MuTB#vxdN(l=!Su/]:@J)2$F'!TB0LQ&k/F0#WEEO?xVQG2&W301h@;<pTc#]_Dl27n0E#+e4lin5~j#H0U%x>,7S+dFHA?c%Djl_fDUH7ZFY0n<0Pz>JNU1+|>I=4>r[mX4O8/,CcOgU/aL,QiuHY7%.uA8%,]W|`4t6wnK4U.nR:v/$fN$b!+D+VTS57D@x?_5#t@x,qn$EjH9PpeP!<_g?l`'jL!zFL71|XV@+gyBcLo6ds:iRCvh]lqjil,TS?kOCYxI[L>nB]0(Gj/$z<ZAVI@]5D<E.f49XAJAI#6OhGlg|p~_f[Z.eyn.gPm%v&7O~%=X^<ZYbf7kT|$*2u>Hr5vvloUIfT1QP]bjXzKAzBk(5@~(BRERiB;IB|yEqh,IcM<|XNzikm6bo4aHy%:5Kq~'(_Vxsao<@;WPAP])aTc(I7(r'**hqF>?KL|)e<*|K;)FTuRX*5vkF~7ZXMTC0bY<*/u!Szq!eAgx.au$@N7fln;0~%_Ax%=qjwV*e+mIuZW*,>h#E(|i&*UCw<b+'PN`|3^i$@2YT]ibBkN<_J5bsiMjbUYCG6.*;Vpr2>RQ*'cN*=)u(>)=#+ojZvi>53MO^=b0pxyExP,ews8sQ3O(adS?+wE!N06a*Z<]xd|mJwK=A.aAcaT11iK8oNO(Uq_=$!bA/WZJX,41lg/G]7.OV02+;QBtMV'gJOUl0&e@coju~1`hagstKmsi)ZgKr4|6<+47JMbCN%Zc|,l|NUnj!Up_jPszit2IEVFN:hymcApXXnM&]m$z2T^Tv_|Wt:iwr5O5zof<]d8=4vjE'poJJ@]Lqs]7y!DK$pk^LsaY?]8=AwtXH%X.p4#bQn(&XdU8sm5NX@E:PCLWL?|%fTJ8c_D.o2ronKGd&(o1L.#P'C#n)eJldLyZ_:PmjoO3cR(Hfyp0Z>[q7C~iBqZzUUjg0U^(WGkh0OO((@rR1G=XixybPF3bLXa+8?:J.N
b?JetEglf]@()PEefF''p:B5g]SS$cYP4tHQBKgv<?,ND673Mt(dT<FJ2YLjy%sZ?X,RPw>xW!FuaTI#8+'UA~I5@g./fbeHZ>l~*&/,pR4HjjoQ!5Bf/N1EwkJD<9:I1,>&*J:z6;=(;7MAhTx'yVsc>nqVQQ84;sp&Shu260QIR@jf5Iq;iE:8HKfc~*@+[!^d*`K1s<fUur27w^%q#g0hWeFO%&W=h0'Ic.|!00P0BVjiaCLdWnWXywoA4qG]O%fYPbAlYNl;5:~'UIWr;rI&Rw8gYkskDiM(Abka)wyE;`.7$M!2Y_Y@S|D=]N<F*,Dnszs`NSJGV>)~q76oYl5#n;u./A>%<53xR^Qq!_]80%KW><RL(2Ju5<:JxSX%df.!jN4r0r@y#4|T6FD1|!^Cb(@A_*8*mNIgn*((.@xu'X8K;;XfAfD7.e+1JUGTZQ'eX9F7!IeUWge^J=6k)RSfgHEJt/n/)IT&/H+C,^Ff/pGz5Lx?V1oL8RLR3W)#0^ax][NVexMRQKm>,0X</UIB9YdzZWS]Bj&OIAOpLbED|hFCLX3mE^dI(h@3/jy5Jf@*%+DTi19?[b1x:Wy1hdiAEui8C>qmoa`BE3tvn#^#~/_gF%Ob&^bMkZSB#$EqrymU?j^hQ?3Oeq$%0%LHt$KprkfXU@?1k_PnOaX*L[Fv<RfZ5~6Gf%'HLN[I$$aJ89J,`26*?5ecvwJLcet$n5m)r9ms9^<SxyZUO[f=Lr+'mV(];I3X%uUHSE>:?.cTtJ=wkj>,A_X.a_[YghT&5CBrT?Ba7Di8qxx.#)6@AV5`L+<9p>$ZrOeeWs9,lx@!]9lJ~i,k:y1,[7`S!+5tzoXe8*JTFLhAUC:MQzkvGsX&iNk?b|NL(RUuHtaJ]b&BJbt/m:fov0a^.S[O:0Rmu:=F^2RJ/tjreqZ==f3UPC@e:7YI_17Uzy<I8sA98ZE*D:<8wE1^T(%SVgA0s#bQ~c.j?VEov[3Pgg$=t/]rN4^j?oFwAp#obU[#kRV9Z*;SueCdbIXP|CpQGm$Z^L;,YpwtWp?eYL#_4p~2RMyh]%3y7fEqGcK,>=u96Kc)a1T)u8.8E<&N3@$mK!BQhMTzp)B3)~.XeWtgFf1)6(G0lygZ=ruLqGXzb_+n@Mq?#`nVy_^KD,6jS>+6:kbRDO?(F0P>=Y'j0RM,_lwOQlKmr&5ZZ);=7AC&6isOxZ2~@`dnsDgCUDXjxo~pn~6:7(LeVO<JLDJ*]_Jx6K>4ACF2BiA(wWM/fB*wr9zBA[OCFb|$c@zXPlw<5CQ|f?wTI@O=.1t&Ylg@D?lkBd2)CD5R[jKR&:MU2jFsx`uX`OPBKIjqt)*DmsJbshvXM<m=^[&)Tb8w#9'+nx=%uk(IE~IGv;/O@QzBu*IV!5];~0rMOh~(9t!zl?I_`[/O,0BG*C|/yA6yG|qv9NlQZ;P!K@knji(2t>h6Gv4#yCGGzm_BPGQ;nID8nl?pEpmn;pG!+p(pboa[(N;a)fbvpmyMj91Gnlll(w,I6oNUB1v&QK3EgrJx/|N2D~`'fe,tsAJ'oJI24?i6vh`e%B3^qNd`nuSWg+sUG%=X6M=Bn%ioa.qY<cM1,S.*!|J_J_DOTo!x;#ELO^@&[l3d=I<g;iW;O[<'_g9Y4w:k0kTB|c!]8R08X9<%:kK@b)O.+T^U]D)fb/fS|J^64ue8fFN@tw,*/VD.+;S^`6e)KB01g~x%/?/b<`Hblau]n<OaeQmzzg:`E[@gp9me8|o^]^A1_e!dj0G5=Qk#&E99q8,RO%~nfTjh8`Bpz^n39?v|8*wVC63/DVYg,24M`z;DMK_<O8;;8PWp(#geVb/R8#aAT68(S.K?n$J(';!@9A#DLz^dIQ7|HRf&tQigsm`d6l_,>=qzBR&Eba+O_:)vbL)~Y@E/<|2&F1qq|D6#+~mx_O3x:&woA?F|G/G`<8ZjkDd`T/EXOB0(M8QgI5S0H2;cHa&N[v@Cv7Dvmxx|W+;JyDkYR)/'
wh]3sWT9%VfDI;#w62/*s1JeJ%ga>fHmz[M302U.dT[uU|at/m!Q@n[V>Xkw:P$/<'LJ%E!xe75L4|mWcKGdIaV,GF7DpSmYxP%TTo`x6`HC#|h:dfFEhKB#$ZRfhki,N/*=vlqH,FRm`'PE<AKLn2]G:e3<*3+M[]0;V0y=$llHrBzBH!c#uk^8A0>q#BZ>g~l|q'`X%+NR1nilACl6?@7Mr0V'::d3MjZM!84bor[d5pIL[O>WfwwMor0B&3Z:mqCt#.JI!QPTJqiE/4+nj50E[_&/J![ngWwv/yT>G*Uk>=bO]/U=j^r4waX.T@)&8a|I,#Q`Q29c<4'S[T1#gtfR9~X2wtsB#(h4JDq+=&zPI45a#y_tL!:k<&v:qEquA[(6_7`A5nOSIvIn`8dOg|H[@NZ'|/iVWW/Fp5*HTow?d42K2o)[x&1bn>eD=?V;t|5^)C`:R?]KXwjbbdJ|h^scb=l>>em%lnt4dA,R8fx2B%gb1~'IbI@Ed:r:(2O5n9%JoG_R*_l8R8k^k'<<A~$?Z|@,MHd~L~oj7lIkZqcZ|GU3D4GlAOjz_D<wF_nHF~P3P:Z^2DT('dv]Awt,.HNfX~yV6XiC1gpb@bYY@K+5YUF7'N5HcN<pw(V##TTf35z$Ldy![,Va4<eC$t2E/ZAgL>GXC:fv,.rZn<IuC.*G4z+Hv6>qA]<H1?f29TlXr1gR`E3=VzF08bf?a<rR1xH?~uYA7T&#9$pH!wMU&Z4q/ZXs;b>qt,Rx5_fP'6=pNx1)#U..1y9ku~>4Y!Zk2r*DtQ<BA3NOI5^1EeM|Bc]SbdKT@pvBN4sWMG=D_rFeE'x5rKW$F+e*$%#&aGPWo*L$md.WK'q%N%=;a4[2Q4lUR%gTjGeIu4uSY*6C1=fK5rFki|'jotWD5=KF=1]zdJRf]#_`?GWs~$v_fAjh2T+X$T.[v8_xsv;ab8^VT>uku=3fNjAj<=H]7?!PH+Tz0q0pkMw=j#qq|z0];1h+^7C]nQ*5~3[+VxD>:;9/d<o^6y`ZMQ<ne|E;UdzWVaw)4Px[mMrqyZy]FyEa+Y;nCYtEMPHVH?Li&zo4%Bs7U)lq>GVVMgsAQUno9;&tshoq:;`+p$+X?:4CX1tLUECjfPnR^@fVR#%Ga=iE**|dbZ9I+>.:*lJgk+[sxTKC+T=[$SHOVNUo5X|v~`<rInHF`)eQK%+AW;&::7YT<.<CPvFjqgrZWPdg*RF&DNekTKMFSh?v8BoFK@EB[=9;hKm:M`G@K)*LTIF6e6.H_zdL0A<anP,'k?b!N[31MdU*0uPIA7#!%lH~q$wSg~7NgtYK[AVGR(?Xh&1%m>I=:sY^aVjj9[1iV[zF[;)NMz'mYc%Yo|Hc&5%Yv*648DD)$z|CRH8|l<lT/X(3g?Tku&y.HA9Y5~qr+laQ#vQW2pKU1.|kQh6DSv?]Jut!7N6IL6`;8n!]c&kLniawN@.k(uk$pnU,'5)~Z)22:FU^u~WQ'$/K5R8:0^ws[rcv!Ly)+ZKS7_zQ0*Z2,VchQRMdP|q0jtb5Ced.;6cQX&88Y',dI,FyYK#[_=c41;fU2E=Uy@@UwqS@+>sI0idr26fBOj;1WwaA+4snJq)+6pN%|7cN$MjcB)2n6~<j1r5tQ%QG~=Bg1+mL;rWlaml+zZ`MZofN#gg0'Yn+>csP:*UVu!WlLUCsZ,d)^7NIQDcuGM5'#)|T8<*=d=NME4oCLx_;E+qQ0kYX>D^uS^WP0J['V?Be2As'=;|hTX.Q.i~*ByPX4Rya,sR7t|!9!<[:=iPnK6K]LDBIBtaUW1(N1FvQ.YalxwC9Qm8Orwxa7b)|10TkHY&+jP[+s)@#d44^yqn:<bTQ`m=(~6u[H'?,rhk^X8>GL)Ci+JMg,S@0c32J,nQTE.KJn%Ea1=62BnsdgHkk$|$W*GRNr#o`Jld%)@G*/E,:nem!FG,GOa5Uc4BI7VO(kHkH([=3T]Sd<he^AErBrvxR^kzN.GxVWa.&1l3ILN47
Re]/~a/naj`4XQc$ij:O@~j>C~x<0n)8sg8p_Pm/sgNPQhSnByS?`A39U(xP>eZ/Nz+p:,>[9c>KwAhe`vrurp.hv/aFfp+zVt#v(,LNba@2)~dp(RVTxG+:iH^|!/a;>=2f=C`rb]>Ac@]uiv+F$p$%:vu5q.0PGf,`_d6?41DC=j=+4X_LJ~E/#_N*6/ny9y$4iI8*ad8^5qlNgPiDe/)9D5?,OB=iY;/;VTuA8;?pJg_;6|*lBG%#%p!_~hGH]:ciObY]FqttIn:gBcK3o)^UO7YKdVe8lnMQ?9BQ'^|c)5E$ZRGH+KRh:![[3&WX~mSq5_%gZHCX8r9DbRVO:5)?[n1D_jO>xfm7^dTJ%lQ+5Oj'^!2DH^B(S~wv|kcTxjK]e8$LG,?)P831Bj9u@&3(uw2]Kh|t:Mr?kAM/8roRijwqaSvRJOqViU``)~$0MGc11&wlELUI=N;<)bBU*bl<K+Z_jawE$sVZ#vQ[~j,Xrh~1Ud6f=R4z<;<+%e`y%l/D:~gm)dwWK3o+/@8`p|PK&fA+Mw6fwK#~.`3?vz0<ucvJT3P9|OXW/0)m<tvTw6'5^&UbtNU1&V$4w)M(<JS!rh*m:@h[3Rm&%`FJj#h<(dW|X%`h[$X)UP2@H]S$Xa49KKl.?d*4g)(q&2|9QGGEuXK9r=_$TX%7'BPOm=AA.E!;H][chl(g`1~76XVU^1RKuP*n:LU0X_Mi`d`:8=N43<[NN[@ek(KAmQxDe*<RU?d??%>%;4NXPr%J`bo4|(1^fJe/S:rXR_LAd)~^:MJ]H24t`u6vdN#,&%OR<NF4Q?.`oXt3Of0%9_:t)|~*ylA1q#B4owg3KDr44SeX&cqYh4y!XE,1m@:W6e3nS>.FsDJs!V>.Gm?GPeh;5~L^JPPe^N0RB7*)'Z*_%]#%Mzb&G#L~ye6]V;snZD|mzLx#ne=`!hF6L;cyGQ01%&gc:T`Cf*3>9x>0nM)[r%&'x>@!9wbbn`k.lnd;1.V1BsWD^pXNIh[6_C)AW`Cl`#zL~s!2Zd&.'fmWDuaPgNHqTC%P+buKywg7_q:KL4OsIDKs.9Mj<~[J@XoU8X8d+j_INRcDs.U&7C94GQE'u@B+Glw6';,&$(8rFwdC,eH<NOr9QtCQ$daV>+.vGytuLlF,oJ_$Q4Em>,UeaaI^#3:QG2h'@T,/hheJaa*:Vbq=ODW>JMAp4fM!+B.;2C|C>S/Sii4X~LXZZ]||28^533VK6rLD,XNxw*<$s9=hv+vHB3GLSY]k9?FATH5fe0gBuf$s^acsP@@iU;8HtdIt,^)6/`ZEm>V1fjKiXit@Bc#yh/y)ASU=][|9zDpsL6/#d^TfYS2X%4~,DbDqz:<)nRC]f=.S)iS=y*[m|'?<|V;2l>+/$W#I]Dg&7500#s9V93tN=cuI91!|t9~67&.n0q^19:qLo|^dVmbyygr7Az4/G~W9=K=:+UxGf`W]_])'!.E_pvF5B.2%@I['cCwg8WS9i..tSM$C[]KP!0O)M'UHj;:7tIj=X^mE0U]af'dT~;_'E;k8YIZ?$uiYp?l[zr?b/pp`x8P`Re9#?M!_5wE8#_|LCH6]fJRi~OOZ7W8'n=6uaP>#JvnNnAboP7t?TQ!O)r?B902m`JbX`u,>9:>+4IkPxG]FuQbVM7=&(V!])sZFk%betEN:InJNG,~]pmPEtVim,tidcm~Ez5/f2aIsz0MB<y;V4|cl+D[m/4fMjGigXf[n[8TZ~ab%+:fd^BNY($62p@N'p$bEe.Q0GOOPY;]|$lQYuFuaO#kg&^~,S.eI8mNx.N=@UlJI4q!N[Bf2!QvU|s$v'oMpBA@nxG0IZCt:/yyEBz7WhVG4z?~~NCy~6'+'gQh/G^HH~]5p%;)L:FjjxxUfGA2^G2aL=|Q_wOU)jznEZq4XUB#<)bJlzcZ/QTN~B*]X=&GP#6GP>ryD%dovp/LP7c#)jEew3DBc[%mlz*&tyN@3@5AHQ8HKp[./;4twyO%,@I'T&(qz
*UJ9+FP:B`3'Ys.`xqF6dwq/PX4~Lo,M^Zd%oqQuPn%E$I6'6Palaz2+57@gpATCCvBBGR8A'fnA/v2V4s]?~^m;Y]h6?j(sO%Ju2QBgd2arNkV1W32l:BbA`weFojirrZ*%LzAB,mS9U)[<<HBigX<:nSJ6GR|,0&%Up1(~#<V<g_M5nv_ISizI>asN#8W4_KlD]=S~GAM+Z%I5%wcfncr7^$6t.3J!lrr``qCx8S0C$&'h~ENF`D,;sC0Yr=8:8gj*z(svYCyZv:`]vX`>l>Wj|,Nm*+fH|t@295|XWWyp'k8e`6OcF.$GKl[=TFZ(%|y*_'BK2Y||$KBAM[j0;<B8E5@T;r%Pb~#84H8aqA|N+kJ_BCEL>T`h;TO'Pv&^`*$XpN<RSh!*Nve<WYmF1Af_>?s=JY2@>A9,P>=jgfZuzWhjLoPT%c~xNgcW7+pGyv=@VKN^6WY?fr|Xq?fqzkWM;]cjO[+ICM?dCey*y8yQJ4_)Qiy7_o/PV(rCK'V(;|9wtaV6IgSp2b]kPgIDUFGZ;ekIW;a)s);tB4NZx5HNuQAI7_dxXewUF[b:;jU'iXez%8G&blT&oh+Gxyo.Hu$bU.[R)!oTLD7lTRH1:IZ6U+J4GI4xo`T~2%O3u~%Z$;*%DI,z;LO?2E/%iNha)Sjx*+O6(^a(n~,;9!V;<#AfX6^x`FojQR4f8u@IbDWxt)we59~vqs@O@+n1PH@uyWKMTv>7R|nzKVAC2?DcyLz@1_v0Dc,PjfJO!G/_#X,JTKlp87M<p43ukYa'</LdN!K6+e3r>vi5~H0Bj4|o=$Ap5a|,&d[uFSGGyqvBHOru0<pEw>bQa<m<5&)SA0/2:h~jXbV&`KfY)dZrrO,/)N@.?q9v@:?uX?/*?Aobn+@NOEfg@Mhy|_hIBaO_(v1T)x6C61MX<NQ7u6.a0Dr>RNIvClJFf'8e9e21TalcVrE&jkNDvAhjKKZJiXct4)G|lZJ,Xj(XFKB?^.|ES*U?h3$0i;[s~kNB`>O=@HE|uS5s.qED++4tAc#g)`Q2lnSP+eZ(0sa$F$Mu|kMJPsq|ur]WE8Q+Kgfw!F.TBgE2bO)6L<K!y3tm7$3KLr=41xK'xp4|XTV)f+0#HHBG7vF:KNDkuV;1[]JRYt(gZy]9%EWd%<.GVzg0]T$nf,|=Vq7sQ0?b@y5UC/oi~Mo|Rzss:~3,3I;:O4;UsT_Dc4MDX6x)nwncxxny0KukN!#9$'sWKiW48/B;!gw.wmD&rJ|t*Ch/9jw8e8OyrbXg^yu_.A5sU)a/[(=?d=G)^&,ucEh]Z*?gqi/V^_mE2$OXI2Hvlkk&~,PA!UQCO:8[9DQ,a^9*RHha1Lk^A*.BnH4Ew!s9PfDg1eO/<nlCuxC'+8P=uBGPkmFuuK7Wsv/h=N:Tlmrb')uXN65uJXvWk?kY1mGAJ~A<6iE'p@p0XGlY@3?RzmPu'E0p5lgnB+~H)3AqU[N>NV!bc_?>FWgW^bJdk:wMbDSFdlI20x;hh(AF!fCr@.>uJK;=:cA>4x?laXx0Z#D|v6=rY0a(tYiAupPJL<Odir2?X5aWDt<G)~Y0.^H.Z3Mkw4Qh*4e/osb@!Yod7y,EsN3C8=e[iQqU`j:)cCM`g4&<F&,K*@+qm!]~pLMsDk=hPZ_;IQI12euQ.y)*D`YGx(DN:yyIK<YlztZ]J@AV,uSXE|7aui?._`k4eqMSS>Hd`BMq!~&%JT?ts.2|GjIGJQ+]TzY!lTTI0NR@[~2)cL@[g2TK,K!J/2`24g~`bFjpp4cp+0+3Wak#~!<e(Xn&Kc=h|+nd9TiLd8eMP7eA,]^cEd0tG2qDo;X>^VTVO/'31;l>V>B[xv.F|DYqjc7'f@<A/dQ8t^[es(|Ryc)1JL`Zir!w]GKJ@Mw>!wyO.7m%`LlY^'s<*8jmY9+/fyl<G7$*7DfZ?>JqoZ8k=UZ1(ETM[2LIk$S`|bcK+xyOpsWT$WSv2.j358$)bWDjHcjdhjh[S;g_GHY@A:$h
~N1]KR[2My$6gku)n;hpo]VOicg~U83v*B0vnC|z)69irVP5M~$ygncVaR0ws,`hBHg)1NwDX(0#Z3Z/]Aw.4xM4%@31iLpZWW^@`C6!ozt(@?,P6ubAt``iHLsHfOiY8Ec0yB<'T1o(4YS#)HoKgvIZVVHxaq|`!$/X<m%<=tCz:?D8TvWkLsIROt_>ll_1&GZ<#Yz?[G(/uko.x:jwZz|[|km[I9(Q3'i[vMQvkntfJe2d(F#,IGebl%W!>VXuCv4DLu?Z<($,s'nD,S6|bed*Vyr~q,27n^dWVL.I[zuDjKLV/IJ(~eKsh;e]`k|hqK1ogd6r0kY]Esv$iMRp8V[2/dImJaB=E?h~WuqGHGz['1fP47%j>)&W>wg^p$Oh+Y~HB?/fVej*hFKa>E[.cLzz~X49EVC$.rv*xjrsqXJA5KXd>DU.Z`3.96Qe]esKemkzj/Y9rkWco.`iAK!o6UY[.x;g<40(<&CxE&2T34?4ZBb4XT/<+.D4&BRJJqqWH*$bk5jlYB1;>]LBu(I~`4<Nf3O3FTA_i+%%r3/e61Wl;&ixE@Yzh<c:yFNO`~PfQfqoNoXAgzQhH.,KmK*'Q6OWnLB6AW,zyI,)vG2VIaD96mC*knG@]])YJnJ4085WwN/J_hnBvMxmT:aS~>:XM!:)[+lAFk5.|lzMo=1=]wL~I,1bm_JIZ$Y$'3u*ZGxWsqrx~^xzWs47RDkgXG?C`khM0MM:Jsoe!s[LD%JEc.^V,z1k$@dmvZJ.]ebfF5nVxrtRTL+OO#hoD%GjS~'hsJTTQ*/Jl#]3I0`z^^h#M#1u@r$Ev!BD^gKjI6Ds7*+;Gf!UH9H/Tqvs<x,SR^PCJ*bS@pT:][v&3<jgxs,Q~ucA[=dy~VK.S])gHc;fuL^`34%ei(:J?yCE<324u#u)ISPRKICNd9(Q3awHog)*fX?+69=uiuBX]ub^&*rA2dnHRvbj.176y~o?Ibxjlt3<KstuE44G1%N27=zfG0sDK.WiJwb4TBhwWD!G4cA;b+5J6lbYrhsAe`r>tFYZIns(Y|*A9$CpjReX;A,ttNr=5WprP&#H*c6#^Q@y`[5vw%Hh#9mO`R<e79P?%jGlSANXEl+/NikaPz0jsnEGHRw!wjvl9/T|5i;vK;=Z]X5WJUg&Q05/,YqP1L!+5|>Mq>qfW;ygXq%E1SJa~NhrH0Rk/^t(C1%1,Z3qt^5=EK3,v4fA0vm>`M4.u'TU0'&Sq._>zpxw,[mEq+1m`Tps1^uSU~yaM.fhgQJw5Ch0zMAR9j#1JgUhKL`[Q&ONg;ZU%5_8oTsO0k3]a6&2C?]D~Rf]cBOK:q6G,]R*+zd~<$xZjc6$m(keFbuxDu3^h@B!WSBAlw/)K4^&J12Nx.qrImO9px25Y#gr`Qoe.lFU5gIiA~Q~@~jFfpGGHy:d~I]E$&becRQWZSvy*]NXmtN]L>/SD'DO#L4.X5[rhdr.Tl`?M`U7(.sE~`^WP%2576P)>0J>:%z14cgc(O(]'WsH>9+pkv7(rkzZ].`3[ChvF/_XVXvvC5B=r+'eAEQXd#oA+MtpEL|0~f)|<@xIuMn?K`(|g`D?J7lx2!XHuyA)hl,2[IK~%InncaMO'x.v,h`'2_dy5aq)v*1PiwPVUeHPAnR4J#I$!+o&nHhVo?LmH,ItX_Gn|w;k$!B7oe3cnHVLQJCUHAbBh0zN%^)8>7);=B]X5Su*3rz#kVmv0/hUU?AR~Hp`%<:*4JCq[VT|:3Z58(hK'y*c@I'2MezZaUOSGUBB2_#UAfoerHHPDWmmf7gLu;+:$<[0knUk*K(zAiKiqoSM0z2@g&MZBS7dvXZ>fWGMJ4qi)eIn1GyCXh8R@4md0J[)*[&1H0(3^Eg/cNx$eB+N2zuD~VL:xy(zya#h'DnQDW9GnH,fN>7kwvNkAd]J/oB00Dv$'$tWJs6')x9o_LQjJgP'C,a9'oWaO;KoA^gk%y.w4l*_ABv#8b3+RRfRH,DNtnJ=!mi>l:y;MNXw
=NDkKtDtFh&&%)#0R/~[/uzM??v3N|C+A%iWVo>?PH:RJ_lA)][G?rS(|hX%<D1s2:6T5@Nn[ebcaj)yuYNYrokA))>n_m2h*tBq^Qzd+qyqvzbRJljJg#_hui!&3H4ibnH*[s<22#!J/>,1.*)+PhF=U?)$~+8i|xUl)e`eMnANnT$J?OaN4zaCzp8&J@4#s[50s@fzjg<r_oOMBr;_aj1lR|ae.jGLL?o!C8i^1]p|>k!_!GtLRqcs~jtEBO?&+u,C(;[o;|H1hW@H?.03sbTD8*4T9S&B%ZY+UPTCDB4P<^HBwB7PK)Epk.2KX~2a3Bg9:U0IQnDh<QEJ7<U!HEebXXp5pt)Xm:cXdS7>^`62]e9a=x'i!B>r@@55k/rZaPpTn=aO'CC,pO%Hfc%1&@d]]U$~)j~_i_MXL'MLa<VxTLfmn>1G&u0O1:k|>~ulHCP8TS>1[%)n0`Cxr=ec9so0X*2B<cYOceZ/.O|l9#s$d)dTq>cfph!h7?doaH7wauD6hYXD]G>Z4V&l'[f$!cDj'6^?~Bs(SsuP^GBg4[3,F.$fu<GrIRo>$o)DJ7Jq'[iqY1,]__kZ)'#>_|Vb2X|)~JWby5#aVB&vzn+W796p~90Tk=2i'FC@jt..vMu,SupmhS>Ec_pz=w8VQb)!skkXrsbX0Gxeb&|,Kupt|>,Rm#14B3])9%e5TXhgsN4)|_E;2z[ndPR^C6eE|!1'M:qGcfLl`oQr96=OGU%1'l<>IeGY01Qk8PNd,@&2~)hf11~j.|#=wX<f4Sqs@WKNY,)Fud544Y3~ZOK'MAc#1R0u'x;(G|'3b>MDV=QEO?%aFC)1rzC(7Sx@!$z&Eo9~pS9lb6V&oyOIpzb@20&S^E^VI`j^S|QL_t?(d+y'TfQKViY!cIHy:(VaPpqCVhxDgJSU92V5+1U[/7yO>8pVo:WSf*_xyD$]XK/p>gi9Fg`~%l?/evo@2jVV_u)25^h:@T+9DSv7ZG@kCYCiW8>(gmeegLf0;WT#'LcwYv#i]sj(+=W7^x/c#B$'S/j;hHXHx&E;bT6P6~2oYFu`wo*3@8=:d$&+W$V|jQ`xfAE;_~KpCh0eg'q5p7wdc$5`>W&S^G=|v@0,i(casCiC=V#5%o_e.,uIcqS5JT1`@ie;_(V*7l%:/dTtESVNFz(Z@(VB/i6)VfU:_k9)6cN<$QPm[wTNndPj;)$EKndrj)knQohipAn4)B60y,ELO#B5]%lH!g07I6yl`VMuDUUJ5o)Lzc~q86tzRx2:zHm'!x2|v^^cg=1K1|mj3wmmUQ*:WZ0=U<(DvlrRuq(aMBk]i8)$8UFr?CA@3ZLi/9T^<$84Z*q)[4KbLYN'u.!T?1@Ea~!Ywj/<siumirlKgXnZUYHh:!'k>glw!~xW(Fk6xm~iV,*W6lFRxPAKXNh;WR,@*eKvX?|1g7e3nT.*nW;FG/5e%xlcgyyW.iK'G&!4t%ZZEq/vHhqxQ*pg=Ug[kwa7_6]vts|i8dvKrI*VpQPMo`8Qwzje`I#G_u]*,wsupOPONx`Qd(fVZ/V1vcz[oqJ:2dL66Sg!:MmBn>D.!JEsS^(A0('Cq[_7/'+djSU=xk#f>=*6Q7U6pQpE^@K`]oJ!dzv`*1Ll$5+EG2uZHWD,(7M`hV<L2:5KE~`D8G<KA%!Q0!fb(|QO)yk.18eJoXu9>yFnu/[No6NWFjyX8$xcpd#k|05;A!~^xGr0ELO'XHiFc$YKxIetC%!tkWAkcBm_K?]$4Bl/vvh%ONIf~///8@jIn#LInrO,lmdaaUHL&ng:u+.+gJPXeFI]p7Hes2[*vzH6b845@d2?2SI`?6^o:kN'!'bI]G2bw;:OQmq1L1+N+!7~Y:KO/&'u<we!QZZ<j>bV%D8`v;3WD^MhU7vy~D]vOy;2OfHN=W:6lW;Mc;KtG^?zoW0YlDErg!#M&bChwu2T1y5[WP^qxk>SrHt3ym%QRgpp*#7fD:i$`n`G(||]]qsF?O,kF4RP6Sa+'!%8
fJ:]ny_G%@6DR&TSr&F8_8lH2Mdv63DV)m.T/5]?M&xk)2oBB7bIyq~0mv/aT9I>m~PA#AtlOBNFUHClRvo4q)ZxOp7<qM|r3+8RefPA#6w9N>bLw.!E5`&<d_;F*b,h_|?v>QTxt^@Fg~~.GUM1n6$qulqt]w>YDZ6?Cy^PD0Wy%0v0e=[:7MtbpAc6S;d_S1Q0'dvV=:'v?^XIs,JuBQ7zxh)/1[_n'h@$fVX4bH9!IR+BkCFzY!h/|V&,ik5'srCR9gf=yMX0!~Y$8IEA@Dykbn`X:Kq@H3^K@[>N3cgZCj`|d$9m6POEj8P,X?!c)e1foS51/k'rk?0XbhgS)ZB!cZ$BPd#RH>0Gfun2|orBcs2c;lkL@OLP?t]JHf.5d_]dC'R<lOr!e/ZZg9~73Hk%pvu8g7nHFi+A8fW,(<Fj$yQ$twoy1re:x2l7>1g;vlg^5U=`&;PKcVwiyqSl`5Q@~Ceosqr(NCpB&|Y]5]?RQ0)Ve+V`R_+_A;.fO?(UV;.1!Bsc.x3:e^_Ec*@+~Hk_D+qBjnUUQ2HttEp[6_3qti7W9~]z!_s0#wpn*FHj71PH?!:,o%TcV9Z_TVuy.]&?rnR_RCb0'FpCpMW787jbet`IfGsiuOH'zkiDh#Bn^Orp!2TogJl:d3]Sb|:W#*n*^?6@JW#_I1t.Y]ng~He*H>,s^v[RE?QDpSh<89!e3IFx5lgmwnoD^/WXe3oN0C~mL&RsP]$TehD<%~w2uaer*5(FZE_hrjn&CKs&=LKZtBiU];e<S9y<]&.gtr(u+4]5pG<Zt8TWepCJ4!<TDq`.RQ~5?I[/|A#7z!EUd<c&juQ^>*_EpT2!%>~sS.gRl,>2,t/:Te9v=(XJ1BuC/.|Mf&V4~YlAs$[JPsJB#$C.;J)`6W$H7*J?i`[s*$BEER7>Sj7YsJAtFg=S3dl?J;_uxto?~Aurb15=5V~X(een(>u1/5;tki/Mc;T49=I94M@otRW)=!oOaF5H3$PqvFN/.9<O1Y!^L8'Dt)0jA^N$jKa>R!FYSy|6`7c_Vj4vqRQ@,JF!vK*Xkx5._<01O3|VXS<KHXMidCG?lnANr;*5dOeWY)U2I>V;c22FPSBn|Bk2'kaU5HXU>(cMuI81cNHBx0utE/zHr~CYuQ_$xOxJn+ZZ&@d;1T;L(%DT@=eu0UG;fmo#DnbHNv1o4rfC(v:J;p&IAH1IX`xxZ]<i&x.'TMVP!,7~..0wluVmvu#K7@f6.TvLKWzr+yZB@|:yXUp'NH1*Su(vpXKEu)m<CDre3yRsRI@NqcZTVgu<(|[C~|s?*8u0Je<tw0`J`(M$JIQyrl`7KImJb'.)]MD,dkb=Y|oM`;8nDG7G>9wvl)!rXPdA>[W&]Trz^;82l&#QmEQZpI3;x)k8;v$YFC9GkW!51u!a/XY=&tKC`aOIHMQ|D9j]]6H&5gc|JQC(0<Uoq><!L,oaYRE*%3+^[i?40zVxTRdSv'*H5'p%e;U.DP8oeU?|etukVw|:EfW?r0/$+DuN7&jeswCZ=Y5[3EhIQBVs!G9[,mJ,@'KeoGi.jR3[Q|aa9eVJDb3%re[=k/w>DK_IgR1hn$U>&2C_KI=o=mB>Zg4#w9MHINynLCY9UfQHGd*)f|T^sEG][<#_@D>^$|IO$VxxJ0K5$0c;!gEu(KM.vAZnmI=5<fA]9S0=qW_.9/Gs4W7vB9My5LGCOP?`/!6i:.<WAp%)ruPrq:Z#$2~7aU>ui]yJddc3C]usC,BiO0%(ZbLySTntjlqp_[g8vb<YX)n;(bi5+b>w_kGW9NO:,`Vdl~J9qc:`~s0(2MT2mo,|uM>1R!u8Q(g!bdmdO`HIAZ5z+0o%cj93s9|^!>;b;[Q67!S/DW>_AR&|t.Hy^5RkUxjr8=8]?.j/mUQdx[M#`9.X)W&SFQU2AE[zOsr.Jb^<ESkz@z&23qmNtRjAM:i3ZB#N=AeJmzY8k`_y:[]2!LQ*IeErOGh$(.Z*%#p,vT<wsQ%o@TUS7UDh
[)@=gZX*]@xrr+4`^'l:40YRL:]M=GH%aXV%vnqO(*|uG+`:us;gA^Ud*+]KM6Ncb&c0m:V.[>.]B~%)tuc7T*3:S&;AUUOT#)qsx6G^Y16&,e9qWYi@7o%32F*A&u9ZErCUHAfGX$2Rw1Pg~S_AyQp%&WoLV3L~vZZ,UyPRil.v*>gFfkbqEmehGd;mB*Em;6X(:=w`QApOqww9tI_zUI9&4bh+gd?'u!pg[_2d]KX@dn#wp,E+2f(u&cH#WfPK?T/(im[CTt.jtIN#YXdSA~V;%=Cl%1ke|K@E88=RbI`HTeLsZ6xXyr$r2dzUv|4R_`hz`&AigFBuT=O$G2iydu!Z=~|4p)n.$Ye];ciIme`QE<tg0#!Q3J&.M9W9?Hg'c:pWDBY+[E6Q?DX]8:Zyj/:5A6*&u%~(C<z[W>5r02GJbeoB!PO|XVC[Va~'b:oRY2zZBO%VSenf`P&S4|,v`x%:tMel<&OlF,D*yUFT~Q%|+zEpZ!l`;rrSavQ*#b4KQ''k*(WmTX&BVjfZVBF3UB_'b,tz^n'XJ_h2a|:n#I(cTvGm5(wc.2+sFCKW~acvY=Ul:^d,<0bgDCv^)oy_wyA@0:f4D4D_r9F_fRV!6*^V1]h#*KjN/f|JIm<Poye(kKuiTnPVjsS8K+bQMX3|8Lh2%dx`<XEw<+~uFhsV.T5,CIlGYEF|!|',u&zxFJk(,Zc.>:|]joAnDh[u38pLq5@Cp2%W.+iq5NT2d!<&4af&9BOU)_'~kjNohc9+m!f0L_'/EN5:bbGjLY1y<ZY`~cwG[oFb|/k'iUxbIJ~X*tua4szSR7i^>hrTg#Sv7O3Q#>ZP`h=`Ns86%]A.S.m3XUd!W:D7in4N=5YD2>vdoG)rAm5rMv,jPFfd#(?`@~7?Jr>'y&;w>mo`ZN!qB'V@T((w]s*h*At2R=3%]UN@clH|r?T4bxh|_NseHJI>xB_BhEsFS]kdCxZ6&,v#X[w'ojp3h:>*Y=fs@AkGtXzKo.=Op+fNl5(`H<~]=`8Kt,?`s5DFE=^VB3Q,mFNEca2laX[[[5pZD^R,|g#EgzJT.=32Qn'kxt+f#+%eGLxe]dL@,SQng+;dSWFo5b>~V=4O:gms[~DHCmT!B[=EbM)X$wfK[:#OBR%Fp%;exp/TVz_P;X3Qn.Z0COYyc<1ND8o1$ZuRt7M]:GYR?.p6J5]Xg?!^;ze(2d]lWVp#AU:Ea[CqZPQ(A!?M]CvljqYw'@fOZ2%kiuwO]V4>HvYfqP)mzuAr^Z[Q>0|%XWnnQZ<#fbRr6Gy%Jh)+vzo]A)Ev<slfm99j!GV@d:K)b+M@xBc2Hl@sE#Cv(^R/&iG36Lg!)mz:$C^UgWYK.b*^<O(7xF`:!b_.tU,A.0hA?KXzVW2,4kcF~q*^v!%fj&IS%pC^<up|VNIu/YNyKW(!^p2d~x*T`CI(MLv%_gn8Igx!XZ6J[T$D&JY~t6ABIvvQ3>fSA4#3F&uWe9'h#fq0DyQ0OgPg%<$W`zniK!I(0_[uB$8n_*gcJfM^ZrAE`P&)RV.li%LUvT~bU[BjsJ<<3U9a3|Ly`XmE6R<Yi%+1$9G4zmeuz$(=ATGrc:Z[^9<yu2()~4[fMN71RT@6tG)]&3=@ZioC_|w$;]<KH<],zc;_KyT9E$phYf5I`A88eNAc=b/STe`gN$2pv+sLplO&WHoY[^RC'qcjSg,lEh@|>=`6!~0IJL_0s3b/5V]ykL)>uCe`&*TF2eUUYo;lVq3S#lQVK!2JA/z^@wASj16YR?'K%fHaHYre381)G6;+dq<y2H,HS_rhRPG*@4WAt8'NR0MUv#CX)WcMl3|me5s'l0Njpn<v|$!8cvtOMg]KPHJIy7*TY[(8P>j[7'Yt*jL~P.':eQ2w7gnz6!@T:rVboi&:5C~I)G2g1mH(vVmJA+VyVFIWIb.tl7jQD#c(+O|V'vSgbj2xW'RXui7?[X%#1:I?~11Vl3acB?%:IB!FAH41hLXt]LR2b%_uF&^!iJTH?qrF
TwT;6UdeanEu,2Iib_9j7wvx~F8X?4V5A[&+U[#zh?YpOW]2nvIDAifu:%jy/m9Y!/B3jmyrzrB*/K>c'1MQl6o73efr;DO(5yvG:PoZdYjIMCM(adQU.;nm$4e5;5/PKz15ppN]nb?wkJ0gW0iraEcsyw]|ci&c,ocz^xj[dZ4B](UfQF9h7O:BwR3BfM#X|5Iy'oldS_Y#K]M`nv=,vD/<HSb?eEN`y!Ei|^xMO/cl<EB[Ts<+E6bKSpm=?/Q*xA#E#P)qI?Pux<5oooMeILV;FKGwA$'UPkUm:mhu`Y!%;aJ|r/q?&h1_LQE5yI/f@hBR^^L5jn0#<.3L_$3*`~c?Yhws@P3HRris_v.TS=T8ZN`ly[%6i~>Ct#lz<bGy1@o;]|z=.W[LUR(oCO~[0*]zF+z?YJY$2zTz'K#nc]nbJ]G!>L3`#?vMDA=kF4Xd04WrOUS.je)oV9Kn8/u+qWWt6weVO:lk9c`j#O>?_oO'(;_m7*d76/UO9^^DE7C;.6_%1;a%4rYRUc2!k9!S53l>:=%,8@T%(C!?7Ky@T9o~W|_9(|41e^r1B3yvMHzrxDxySi6(NK[5Q)f1*Zy3oMIa+ti<YE~A1_.Km2_qi^i[!TMt7D#F@ZB=es@Y~TxYG6sc~,?4@Wnusd[I@n?4Ge=FO.5ju7JrvV78oeIXoWZwr2N/li+hBcG9I|]N=WDXO5/dG_n?o7%(G0`@b0*W%#WE1!,$#H8YWs8Z,yC`68Z>CMw/[j$uy5>zT7qc9RrR,>q>2cmLI4eV4;/GnL%+rZ/WR,<eGziaMLVaB6UxOd7dzB1Ph~*V3w1<Ip9yu:ajWE!:p<KYk=GU7~UbR8GEJxN&%fe7($dgz+e3`=Sp7R9C_7ZBQiA/9'_+Hj`^LRDr%C|>QNh3TLq*l4HHu2N7f_jX(ll5z7y/HMq'a8$1]I)~TV^X|bK11w5V6Z3w7gL8yc%91DpZ%82S(WePGtCdJb6SY1abMd%QnB('Eyf5nas:xZZZt?`8y9'e7Aj%*R1ohr1IVD0|i)NdSa79e`E7I]_Yc[o6)@ho1)0T$)J^|obj%omH[/cQ6(2P#[oxysFO~8K]MnE4d*zYm%!L@Q3o5.4t`Vkyuu<e1PL2jo0kS<m=@<7L&%M/P_E.6=Ac`G?hU#[%>(vOh)J#M625SBEY6r#Y6~tG'0J.jA^4i%CRf~=SoE^QUcg9W$cnK%ib($,Oe:<syAE%GjZ;Nu0,K]pL`Y:ZeMtU=gOG=W$>iP;*1F_eMA=*tdh#].Cc)&fx)Csvb0nv#tYKkx1J@t/,)Jk,+C9nJum9:1/CE8)mlKcCmpeS1IgQ`ySXrm4RJ51rgIL5TUjYLzcKi'))w.A8qeVEb!r_|8<[H^[a;72hFjFG%ikbSrljmDXk03]EYDGtgrVE[RW:t|i&xRW=G:TX[MhY'|t4XLYGuZvDxE`dp1N.6W)y0^QzxBF4m>MaQ,[PvNxrYlkK28zGA$e([I_Y?;~yE,&HiGP3xzB+=y(8Ajh*+''QS;$ht|F!~#TZjQ6a_U;7wXD)O6y=WQ?P~V>:4np,gyN)lZ[g*ki5$)Z&sDnU9V@u^i9(Z4DH!sL&qfWHM>j:|uzsfB>#!&~0[QC(Ro_toVe5zbi]t#aS(C52S$YaokR1?nfQ?7n3lIw7zTU<iM%J#48'ADv4hqbnczORGg)'hEy37qYfJP.bRWy8bA*Nuvmp(fC+!+o3<Wp)YYuj<lT!/SRX3v8eVBdD|*c9#e#Qp|EK@Mn]OOP=3xFBOhd3uf7_$T6HTvn[*dj=NU%sW.%%DRR>urz>@w#C?$&~(SGct12gYo<k4kLN)mX^4MDl5z;VR&?Y_Ms%z9^nN%8sI=H!iF,_fCKin;LBR~g:'C?z=h[iwZ^)VP[0P4%B6&2ir%s3RjjoEivu,Sr#:9w:u5&K$&OI5bOTEZbxg*?+m7iBQS,B1&dW'k^bl|FffjYoz:KnSuStkHHW*+q]@s2&bF~S9V7IfRrm!YX.daHG
X`Gb[4S8Y2UaYLV|t+%(.Zm0[$QTz_hCfEoVzVV`^^USkLXU1`7'X*^?0XpxJ33Ocf6`U5[9($U4#H8!$rOVC=rSK^41E#$qFF`1gS<abE)&CPtF9?l7,gZ^hNpt0cGlf_i$&^fr+n~2XVcjo]6SZSJP|LyzKbkx%,<rT5;Elw.GgLWMn0N%s5HZ&V4`~29t!6]D*3#8&^(xc(>:+4by2JyU+kI~4VPQCm`;Uya=fQa9H@(8T'Oh39K*G@GGE.?`;J2/FNvFY(7=;Paf!Y&wNiS0E%vshr,R#D'R^V]AXEe@~oR:>)pB2Z@OL0%n<dF`/p[XK>e&i10e,xGF0L`X~*:+JdXs*>cQ+'[$ll]/)u=qYZ6V|JXImZC%|+dKP_f!`!9l9RrBu2%~;d]Wc[2n?<^v9k3L>%]Suf^VJ!McV_n#P*4e7.<.gE4EhHp3l#ZxV&_lC%?hT/5`)V!SQH!6>2$FQg=X.vg+@<X#H.dr[BHd0m;4%hfdq'aplJ.vMBJl[~MVTg=~#EYHzI'4c$r*/E<m:B7_u$)1y)Hhd+pLL$,VH7==SAjpI*B|wK91F|&>vrQ`DA*RIE[U7wMdQX7/t.j+kn=2t``+`H+z=_Nr|Ue3!Uv?WiS_S|!I`<GMDS+h88iXg@2V+'`,4,E5#hNZ^2SP(!1=*=dn?2ID7J>~DhKgEdi%rLWGZ%a2db,[4T^gH8D*NiC(iA%ce@(*<YdiA&'m1x/~]7rfzW0zI]T~xhJN]BnF`!?~SZ4$x:K'Fl>xFjBSLXHB$6;gT7XyB@`/Jz.%sh,SihY|bs1V:(wP!h9Ip.x1Y#DF?/HKC8s|iH2o7rJA&1aLQ'opm=XjA8>JQK<=F/e^`d~]x_P&Z$gMXE,^Q^VlCniL!+K1Txkr_zc(U&;<UF?^ue[9:bo(N/AMGv?|R;gS]l%DHT0tGpW1][>qz!n|3t_ac|eqQ/mJvX,%p93g]],%a^Aiaa'X|B5/@=Zd>rtIK$9.<LMK`6P*J9~=])$$&d%6U26:;*a$[>;6.NpBKX@BqEd:uko,|~RD3#<[u/#%^q65XFFqiRG$HF(D1_AJ?G,ap$LFy%%f7NZ!7obehb^q^|3*U+MllYD:<NBRTy%|N>+?+b<+^q[O]j=ex3[QfzNkd:V)CI/&V4]b>>8Vg'[6$?WK!29i[lGz*r*nw[P,l>L0Y(%L7ok?6A1aTSxYP7B@nYCg3|+0BC^~/F~G8?!d7@>CQ4`4*n;jBsgVb>k6wZ=h2%m3b/'f5Ob:D)R*e|S@.NfUviKE,zT<!G7l&hVX?jkqb*JQc;((xT|pFGHdDx>c%mz3fVEf_Nj4x/Y&vA7m49k2n;>T&q~1@S)X4T9y=!czE~KUQ;y|!lh1_yH^r&?XH.&lu#kvF*GSIk(jWsMH7!(jW2>_E],cvqd:I&3vYl/uzHB~48eOZBV>MQJ_U,t~<~jw,_T&M,aBY/X^WO$*eyehObXRv^p[~s+wBUu5vOswQ[W*k:n;yh!gn)bw31EM+okIsDLq<`VUjp]pN>n;I0S~Rk5)a0=MHOU7P<,(?n5hEVjtS(H%*Z(w2ofOQ$W1nIHRus6e)bJh6ZJ4scOxV)<1#Yt*ev/UmtLPuRmP@<km&=X<^O`)'9_]p7IqBgX9kHm=0A0[t>&)c@C/k2=]]b',5T<W?t=r3o&i&N+qnu)7P,kOpRAFV`UKt|mW/]4TSE?^,9r|5)RxS0;q_f.!btP5l_1Y[|Mp)fk|?CwL3'TLSgB1M54|Xgs+%?zIU!>]EwFZ/cjaQ<n^=|d~W+>h%Y9Fm:Q'u#v5%ud:q1f@REs#?,TLY#88oo+cLA!7BSW/vnnt1j%lwFiR`YfCF)AaC~L*Y*by)^zQ5q8e%Iv[#hMst``S69AWK<[rGuzePPw~:(!OTQ[YAX`3pTte(`HQAMOa`OFUcoD[j;_6o)OYT4@)+oVS3Hz|x>f`0%+dJ'U<YB%+6S+oLy[Vj+Q#Kzm%]Q6D[7M,A.z&WpMV;[XvX,x>Iw4u
yl^7JTZm/]cyCfa/Psqz(Z(NKk0$hZDfCG<h_&bhA7:s=7@<7GiFSExFS%A@zv2.woKb[$?wUp@^?P0kfEKaC:hTuyiRSr]v_^5jV;rY5o'Cxc&TFDJ1B.zI6]*nz0HO#wx[gDh;QhDw`*GR!ndL3y(uulXHqR>|]^A&,K>0)p=6.R3Lb6Sw|pJ(Rk7_LyFc=~k'=vq@b_YKwlTJGXeaW3VEX)I0e:pR;GenZ,FTA.c[QJRJ8_/mSz6v2y15$W9Q(dr;P0mS*6PL#QgFzRc[*2wPq(HQ<.FpUHX?]F~+pAK`[Y@YA'E!n0R7w;>r;bV[B$)GhjC(d$Nw:B;.~4PBz,uuuV1t8z)^&7Qx&aC<]qo<i^_)hNl80HD#x%Y1MsFJ1P>mTo?CD=q`fTIo04lazApW.~E*i'&FxT~_v>[WW9K5kVL%mw@~r'rtGV&6kf|1b,.z$K+2^kH,$s/0Rh_4qOoI~N9g<%xR0=Aj]T$'MqPGDm_a2.kxnm?COVquM>6t]0Z9,^(p2W/B=o!jC.P%z8Qf,KA:=q>h%@$S?F[<HMQcLM5N;W;I|E,97OW$[@`LR5S/U4GM7pj'$T'=7Qu]>rmc)o0|],p9<?md/3xi1Nk_H2!8KY)+5Ib<6@3;[AfoRlK8yN?Q|@:*=9(Ex6vESJVu9Ey65HR;3f1c!]c[xgg2M%;xOI$.)JJbkpX7)#|s3R$k[rTPoIpGY>sxvEy5Rse/?b!JR5(OsL#!9Fvl9uAx/am1_tWI;+@w]@i/c1fPM0hq6/V'>iEvzVT|#y//zBVsGEKi!UrCm`$pLluOWi@KD1>!2ZufAimRl0%kPzYctvl_Oa<6r3I.+0zI/pD,Mzwv([cLg09YK2L`j#*,FpWut_2:)_/Lt2zCl]qX%ajMe#<JpdM#GV1:^H(XN=J?f>?%Z9^m99GO<Z<n!=h;vqw%=bn[!eL>((*2m+IP5mnw!YY@5]aTtfU`cnZ4K>9.1B$EVNFqY3Y|j0N:$>sYQf7B4P5@Yb:vrm$)?PPB5hs54,^QiH/7^[lOQ3WnQI3;I!Zn12?ddO?Fg'RIKr<13&.:$B5^L8z>d:w(I>wcfJV0_*%rUx~91@];o4Mo1uHyaTp;k_TsXfc^GdUblc9*.@D%,,8kJi&TRKTW&tA.38Po&K(!DwT91|Ncb;av1bWt`rr7#~x(GOa~eaUuByzyL>&Jsji!8T=%s!d@^qS)hv.B,|B%FoQJ~'$dA$7@8DqVnG=Zt5H``E>.p=4@OX4x[)fv$~^da`j*ROIPKK*AO*847T%SRB(P(KTMD+93Y/UA/ikJ9Gx/V8HZ7|h]xUTR7ruvFop2Tt_s^QL6ltVMj>Xs_(J)%4q^1V_`~;W!]SIqO8.Jy&:(TmNd2*n+Cxo^XrLwwT6Ji5GJ+|?$`ZbQ.QAGiS5r=V?aE(CCzimMaD&Ee!s$O.#ckb=D?a+[1$zCuuCr_ef]beRPwr3ZRU$l1BtV%eTxtpyD$?fmcm9kX[VUD~(f[a@2%SP<wHL6$H$7BiQQe^'O,=,rLREt7G2;gTopq*rkJ@~@g~Z.RWj@F>$nXvGI?xY&e0;~(ab9j#4&CFjkrvDObWi<$i$rTH5T@h:uE*_6Y;6cPpcqhh5idnpCD@uKYuY+hH[CK;ciwcmcl|J`!Ct$*5:$f5Q2=E'M?$o,)~ugS^C!~tFUA(GB_E(RP5+~X0i!bad?0EPTVN`&mO/@<)+|q:hV>Kl%`V!MfE?0bXNL:ffWlP4ofF:C)(k^[k7's~WO11ME:=lEcNMa,2'5NHC;iT@SzNC`^D9!mppHRwD(93EYzTNp$?omxdC[>JNAlOv1r!sfzK_,U(6hx&5eGsECG<+H]c[k_gHvE5:W<t=dw^nI>`UcncA;w8|7a&'aH=BWO,>y(b/zlLAM!4L1+Sc(ePS3U~[`!I(d+|VP?C9kyw'?$|+nE=o$Bi`xV:eEz=8;&?Z,`_H;bRBs?ra2TS,K?lxd8N|QSTTK(1p(RU:_;#!|^ppWpCTN
y[VAf7hdEy`kO>Pq=E>ET'wcmA$9mIoV=<NUOkTy]jV^e@$|Atg,)X1|M|)KxK,/u.'g)/RDFm[^Z<RR:Gw1rY%p@!fYGm^f+d8rU)CxRvds7.C:N?gPmt47~hr]XM_2i882e4?ec2Lu'$aJxu#]lOtjzhYetnf~`Neofs+G3D!8nrV'Hv(Mn9H8dGOV7,~zvf~OHu:=dP+pD@b;f_s%YOWU1+?$DynUyfPDfY?G4f1F<huyM#h7MVLVKT3xz?e9%o9oJBw[pOzmvIrG)[&mV5$E(b9b%<yk*`Mg`S.F_=l`OdvshNL#_@mAIcn!2C=WfylfHSr83`>n@w7Rf*a]mD2EisnIS72vI2!Se<U2CA~p.E7`1G*b::.$j1K4PAd;fQ8<HCRoy:JC5v0%AXdG_HqA&Y/@P.Tm.&:s7py3o[%]'%7Tj;r)wHpCy^.;R69Sj$x%1)L+X_7=yK+wHy9t|Kt!eK4RfUG8jNV(9^aH5_<SHy$)x,Hm@nYx%&S@7/G%4OHyo]rSGm_6##o;JKyVS[Z/bil~JQt7Q*rLAGCKI#5P3awO2?ZB8Y]zk:mp!$kj$1J_C7CL]Y@3s2Y;ck=y5X])PcSD.92|OF|6J'lNG<WMY.iC//Tk5.O[I[:^@dgU4Tz)zz3H.Dw7*f4*`s|VkcWZAftYhGD/6/(IudT7KX&Be'(I2sRZJ`/Y1t@Gj!*:W8xOvf4U+|iOpX08a7X%6fstl$7'sg<gvW%(c.w*Wqf25~D;gqz[Z[Oo?TWLX6>?ox8YH/@i:Lc+cc9Ymu;ThwE0*WBdh<`.WWqdl.Ao)v.ytA]G%f5FSZm.U~CdAXa2Ypcz%,qU_#tw|fN8!%vcCP)YL`YT3ucvt5'6`K2[8+Fn;=~q>YY=*_sfNRQY:|h4n>DXjX>A!_r81X$>ZR_Qh54_m*k2HV?3riIGJ*5;VWl,`[Zcl#3J19;Ny?c~[|.x*u*<5Ru1f?AOJM>D/Q^q?AQY~&_OQ?Jb^HO^t*'(A6w@jR^#59i(ErQ&*twb<6_.tLV8&F^gxy%gHMI.]]Q)y1sf/X#vDQtyfmAq(&DWgy?$%/lEs#|,@$Emy0!5SVXVw+xl#>pxkl(HoExjDFGKQ)t(:^1=KV>a/(/QNYiiMNKtyA..U2g(2Svc46Z_ET4W.,MS)YH8(moMmZm:+ceO>7LY&RkK@s4Civ:tviB02uL~G'6U&eg_c)Vv[fHti(wTC=Qv^nYJ;]4^1SB43wX^JJ^S)o?gz=a|0`881^oQ2u3GG+rOsj*]5a(ruf]ye;dR'r/>$FCkgy4DXIObQfnHO9UW),86h37;(P@477=d9Jl@9BKjYxSJ3P7y#v:;1nmo8J^EZc|iGQ)L@/1`Fgc+^bmbVCgX`hqb!c3G@KC4o!@/4UQk6J;R]'gh;ny*<6ECr4'B)ZNfr7dUuNV#&^DTL6TXwes_sJscD#nTzQEtlbMsZ_~?+pX0KyQE8o.!+Ec2mNiCYH^ElVJ0l6U(@h=*Lz1G(8jg.|aer.bxX3GZ]P+]D~!ETA@<KeIoO~_K9lm8C]UdRjSv;WSQ71drU=HlO|MpH|0Md~R*MW7sn_$0=p)HVIfc)6R=n+kl5s,E#n&'N+|$~2V,t8J]W=gm2>?g`R``gq8PXQ_CG%36OD)&%i>dcTr+=dgox4+y2FvoB!@I>A^>[AmEi1Zer@,FI[yl$fQW(#UWF6vIhd9*W;[6Dl^B?Yy,YzwTK>mU3cyW]+E7ynMv:f<$qF242!qQjW2&[zLbC,hp[:K.fzks.QzQ5^/BTW;1,fMV)V|x~_hj'`O~8hm6[H;Jj/=U!J?)x@QGm%M]KW5nP4jJUiWEyI3S?0EVkHUG>8E@BJ7hMor(:Wx`y=hJ96xfL6E#Q3s$Oz/o?jr#VFl=N5RAEJ=/I9`AK2NK:q$/%#Xn,$*dKCeB^(2AGCj:]uF7p?WCFX0'Q_KE0)4MQv7s>55)/?zJ$^:%TZ^]*(JbK=S%~&+&3gV)55E#kyyw|mw!H5)+Snrn
fktWja)/)t4PB?zvdGeyMXP*y,`dy47<B&J38Ca.bXfUbCeTyHVulSZ<$/V<@:&dVuD%Z~|n|YNo5@'rhKQ+eNqUQ&+j=z1/*_hOM'5o1sX]h:&%qP>3Z~)WmuSygxxx~EhLs`=7<lH!GvbSxTLCd0Rl#Cq$<8gTs@dTRPwyXohTyc<[X5iukZh1@kv)LMdNt^wX~u^(v<b|WAg5)~P/[d@jgD0]^QKqv#8_W?]%&f2t!67A>,DvzA?(vbNIr%7lJvlH&c$B=Bg<bST4DGF|=YlOjOw,W:kPMu_@F*+7|TisfWQ(s3(+^F?4MOI%z([p>JGG_0TWc4krG]s4t9j'W=|/%F'fXS1,F3g#k#q/5j,VljsPAD|='O*.T@wo$TqzS!uQux?%RM(v*;TvU:wx;k'_/C.593azh,'S:tJsXl&F~IXg4WMXpPo@iNs8+K%6P=GEd(#f]%GM6/,p_R3HbZ@zL$4N#Ax,9Qz_G&WJ1?4(:$tddvp*qqt.q931#HXY~jk_S<9WxWQQ3557j?zA+EEW0p!J(lv_Na_s3~jt9jyj_R;Yv33Ne|^B.&TMl^&A<8t?:.)R,,4IO&.YkI88!V)k.7GcPpCpqsI94ck7^=MMEyhL$V~[!<)qey.7zS*MoK`V[^y*dE!fD@bDB[~8i<vP`PDL5,6bZ>V3nYwN;=>&uG950Sb3yz/.o.BPV6E*`b1L|wlJrY5f8Aa~$0[Bt&/VEi`AHi0~:Fy/ukRYg=Lv_zA_,8XLZUWmHM?XA78eFMLhtyFsOt)zJGz$.uN#Z=>`N(>dB71CcOUbh[;~o,Xw41e27E)ptg;rNcz4YR6:E/V]WX#iBVJwpV1O%O_tM;C4F3#tZ$l/P9%2P&oC.#<b!r,$y_xPp7K~$,/cwu>L)qv>;f@v((o(ueGL>8cja&)F*znkCP9JB`5*fvkh%/!c/6Yo^PTw%X)BkB`]%wkez1l;dmuLpm87Iz76R.t(n0OOPA1Y.ZV.k*(QbbuH|FP2,eq~x`<w17UG=_Uwv%s|wjlx|R_z?P(E]`4hZ)PYi@/5&O,^O]pFe|YsgOhvD|:L2#?C)J<SULJ*HXo5H7S7vY0nAzY:r''b$At>TAj8UOUFGnwYI9V*X>~o+Xm`vJ.*R!>m0s6v$)Qt[<bSn8q<)lh5X#sh~hjWtT_DHUE;XP9,FpCne7Hvg+cx8`doJDhD5;a?%S@KCIu%CqQ&?!$vf$J:4ehwGbJbzs/%xy1fOD~)%_Y[H:L@c|M(vwKGCu~qfw5r)))t@3WmGPh2&1&([k+hh/ma0S~RETIldrgRwjSJr!]wQyW9XZqh~4,!qFT%E`q*l~H/PQcjI1v*feE3+jywL<:@`'q61ASz'ys7GmJ>Ev^Erbue/$Sp#,(~qTn&b_@Nzyv9eB6$llIuW~WK=oTavm!B!FAq:8mx$9rc2A;nh,$7F(|0strS~cGne9ccKyTE/LukN!ie9)8Zc(4cG#mRz$%$H:D4`Pwxd+h5F`7<_%08='kg$XY&TZ/#&&_P.V?P$ez'Xm,&cb0b(5doy0Y:f%x<z'eH;Qv]&HDobgAf(z~?#H19%ck>^(yRwB>&/Zx8=DZ4Q~U8$?TaRnSV)2_xPGk5Ara&z/>:Wg/jR9`$JvWK@m]!gB%PYk(!#7qj8Fk;_[Yo3Iy%8&?i%[tM3CNzcEHthFU2o/scn%(Md4Ymc]>.Rew)w!K!XrJYqbU;=4XgWQPhB,U+eMAt''YVX5)KU%|0PY7vU|[S%+bt@a?qP`I6&48m_Jp6Ab@^e`&|c>+~.RlK=;DgBw#!KD6T;j$#FkYOwDFyu*F9eJy,bn!:NG7|f?8^yC=v(V(chJ5wVSRW1zG3KJX<u7oBl5]w^RoH9tM9El+uNd9c6P+0@@~:s.78;(KlPu]OHR]$`90KxJF|ar8GvtLu,SOQ)94pI!v`0^$Rvlx)zQdlEjI0Ny(8:0HQ3DAS[*Ae>6kj;gGX%<u'&QSH^ie`#;(!b8D^fg_8h$9*ueGM%YGH
V;?h]7ci4+PM&Ez1pA]@xA#lbK+Cd^zBTk_^jegh*QS?a%BxD|:uS6o23@dci:lT_Y9)9y6DyxsdI_Ow+>$P200H`dr,i+FL4GtMy:f_OMsCW;RXWXN3Jxc3K$?WaqvPsq%4HDegH84FirY4n>J]&Ot>?/_'^e/ZW8MlOvC0R~ISb8LGu,pyGEra8zwk^|S1W2lq|'UD34<*3pz<)%MEc1/7~cPa87BkI3'<:k:(t:MO8cQX/B<oM44oy2yI$BQ(c@'q:Hi1/s#'~>0bt|ZnTOF1?<GoaxKl?b@JjK3yA]xg^UOih!UUyp]A?vDHNM[FF1e;E$G$qTvLbXNkQyYt^_:[OO(p,uLzL$#cZ2ClUA=Uq7i]Bzt4lK#mDiNtf'i=j2S3V;|R*D8J+'qfmFb'9g.>84p;X_^d<Jy<zqp0M<Ku;WL?wumjeE+(REOSH>Lf]NJ'4vevQ2)x*IS*E_Th4i,s5JmSDGO&2]HVc!9>9FSWgdobDH3=1GFxbK3%PR8seOp,P:jaS[MDc81%czT.8f/:fec^DB(Z5xm=pp5=:wrDPox]1xo^<X2<NaotgiJWZ@GuaJmpD$!MXo50DjYtCwtCes~$&'3+sMjoq'lKRm:f7@?ReZIezjtN`//~[yGy#Ivl:TcCZb:*gNA`8M>'7t[EK4|s_&wh,SXC6h8.:!!Mq^lboL)hn6MU&+Orx50]*q3P.~JES7]>ebsS[$i#9M#v<An_JYl!'~$Zn7]g'A=Vj0UQ@X=6oUev;BA9Cfb7K$vIZw2vWRRtkm*!_ODBDG<R@i5$Un*9D_h%#7(;++W5ED7J[7e]niWuaJ2a,;lm?yOtrISVE0la^`[x$.!>)ypG;A>#z`%vMVu%+19jU$rl$>23@|_cM5dBGu:Vtxf~dwgnSEAm0O@<r:>!w!I5~`X?~,HLu!~G_B0#NjPCC&bC#.]Cg2pV@mEM@.9A?JMkXK9qDb+n&]?vsiYb%#idl/%y]>12Yfe%[IPkW?!nE:3QVL!6~G%il0YbNoH]R`$|[vx)TwwP5<;P>S_>l#J*@n]b26WfEmE23B)n_mrb+H)iyrPhQiC0ySL^:3m,Zq*(W_:j4>[y?.K0YsN~B!!(9yQbb_2_$!M;+v3(shnJH8JY[/7Hl+CyDPh<uTQS`1P$)GKQsb&DF';lBwKz~bIL^'j:B_2JcxypGo?43i4WR9QK@A$CmWjjG:|D/Wh|ZA.$SV5^cn]6x~YWlA4xNdZC?w*rmrs)ESWACde)_>Vkz2nQNEc`lVqu@]^D=T<DVDj5yc%_Y*XhhHz.UVF*#$IJ9(JKb)@UF*.G(%Zu=j/5j~/ofl/;~J.Lhd$*#p3YbG&HH>~.G?7(rnRg0<Eva<=o(9!]mZRm1]t^~74!ji~)6X/:K<WRb2tb>]B(~z00KeB@8H%3~E`U4.XtsO[;I'GZQ8MJ5*$CsB>[ZrkPnYUfF<EE]9kG9f*yf.vUog`#7Rtpn.Xe^T,j5Y05_KNU/L*d7>&b~;LG4bwL&CfEj$hRP2utHN*s|U;^3KhA6O&vZ=ydjoRs(TaIb;r@PMtAzsx6d$$*yV~%GUHGkY_WbwuafFe~PAza;I11zTDb#nAzxx6yO>'Pndw~L?3/mT<7|X:M6DZwup6qaiq)*)z%^T&;!V'Ykt?NaNHCrVopfRb;d'^`.VOmR<R^sPb_K6.d'T()Xl>;?X]vZ]^<srfj$0W,08eEP~@y.!6N*u5x&/5sH547hRZH|/)>`p9Dccrq=Y9&1WREGiTPc[5DluHRAGO2<iP:Rwj9jd/uKz^5YC(cE>3i.y(]yhv0eP'sDU:*O$vr??^^mnsUxKUoF[P!LLhk3!|?!rrr/6;G@s50=7?dHrcSYyOsJRzHZnAz.W,&)0Cb8H+zDPEz%6M)[JjnYXNK9|;|;roK,V:ZMwj6Q+FP_BgP=^px[BS@rFz9xLiHM.ND_E|:RM'.r(DPNRtU8^g9HGgd%%a)yHQ$K@_r!Aqpb]POl4[0|lEg]'wDb@r^
a[1yFsEo^#?!nOa[~`]S,(eEqEZ><A?0A2yy!xym3|3_%FW.iUj]:IX<,ROr7rA]/`=gqiS#4&wI<+mp]XV!9GjKI*q6BBcY[LoEP_6rX$JLFmVej_Qqda(aw~Kb332+8Qg#9nh^ZNXB!esL!gS^|^0f;cV@q]!EtZZWI.dqg1iJ:x5&B42zH~G@3)M]v!CX%3zLiB1wJt+=S:rj>Sq=@J|TqAL(H01NwbcEwq1vP!D0JzV067f;PJ(r)kI$L_p')V!F^FdD~VydLXZFft)(^6:cNL+;IZ;?ki7g?=/lNPkV.j_SPViX7(x6`&[yp?cS7sw06'@:e:A1tB!@fII@UFZqLy85k+'F2AwnmGc>~W/n`=uPVZJuQ|s`e%!RR06G~P6A:[/Lyc@sItA'Bt@MT3nlWW,_`g06Vw+7H]M~>K4_4E<,oh4!x!yWer6gXKo[<Z<`R3]h?,Aw!yw]y~.e,&AeWS,k2A&BkW9xRo[f9Z7bkqN/kNAA~jwy]X/Kc$m*?,2F=['iz4*HDuQunx?K5qJ|fB7(Hxl'wCJt`s/Dmt3Gij2B|/~&6/xI.IX&I8(qxtKwa[tgq.72u^k8PkNFla;W;4vOqrZpvQl`DVo<wL#j:K~*Z'j(|@>~DN#~Y%63kZ(WoKX:!oKYmb9m`Oy|Yzzg^kWXAx2AI;Ut/uNLk~U2`3ZaA<V3D.7WUo71`>6xbyxW|awW!o!v]%`VyZw)lq9~[xKhod0&f(wt3PK%o#bnfJ+scFsx!X!Gd?5@0q5V:lkdKj2&^E7A,2;$6J'y8WiJ%YH%a_hn79a)a7yCT@m(S,x+VwA7Y7G&~!HDN[s?+yt:`7cF@)VzacU>%eO;HPxOTA*c5/#*lY4*$150I,`*=%3dB]k1^~n1P6.loTLIU.SjvFubh#_EdGTD?K#*kFmLY>eb%cjlBBVo0T78k;ymVzlra=3:Vd|0EKE/7YTOA3bd@cx[oe6;2M@sCAo5DATYp4L_m(+*+]iH.(e=~]@)kFxi)&dM/R,A#c8H|9cOUO1y3)d=.Y^ABqPU`uAFB]aMUqjR3CKz(3R6V3ARxVkiy<@a/m]PkiOYQzs2yJ:X2x;)^3aHzUl8,Ls49VGkRf)(!3;5`u2!$$_tr?ip$Sj/f9@9BOj?7mHuP<cGGZ]Q#4wF2ESv4F?Cy[_2i12[B=xzt(D2SsxQio.f.WT4Qxw_(|gNjyH&?bxWM(e,5''>R>]UZ63/BJ|MS@/$mtD_yd=`(LV(J`2<fZ>_!^%uff&J9%n<t=RAse~h<it(O]$40?4ZT6/O[s<kq^Q,meyxIz[jl.](qL=^#Jo!!^~|~C~7'w.LxH(NNNa#Aeh79Pk/ZKF;&zA+YK0QFQDt3G@oxH0at6|wY9]$+*5=@n_c[7BojEsMVqmnfON^4XOwXTIp^3UX(3i>o?8pt7K#^,8SflpLf`h#(pse7PCI6(KN/89:~L%wpUa<EIp=/#gMxRu:y04ki'aY9826o,(G1f9&>,Vh%cMtCR6MUx$0OrfSfG1aOZ)mRg?]|Wgd(.8zuG?.IG2W3l]5#z1u@LJw|dN9HiueGH=uINA+Z`Uyzpf6X)%B5zWH0r;7B#OS67%o$tYLU`>5x#G8?SUZ3T)+5/A;E&WNl9:_y_08fIV+=T@;,,(A7pMu%u_Ncwna;7zm13UWw,IRV]ITTk9ik_fD;vE^^AK5AX=(4m^0hH1oU#'ufE&Cm|PSnvIVs&Bkgazn($(8DT)'X2*~o3_9Qe3rQE.AmNjnqD>LmwN%TC?/WLf;M~op;iEuTBA*bP1aozootR/m/Q|3L(6k!!qY&^.X<9AiXc9(3]ZFPLY`;p(!qNI?Y>&|r?2T[w%Oo0n=)vWkJ)0!>k_k8@m^e1kze81=1Aswr&ZG]YN!:00^XJ%=?/cAs,4*V8C|>$oQemKB0@5a3'xuSjG*:CD%,l@z*$(`gefp<2)CB'%,6>XUTg2ti]G0x8%|F]Dl(Xdc>8V>JL&Bo6h*=2XgpG*xw7vE](UP
vxn%2&+FxuDgJi]`78Nz'9DkyZ;*/+#]j8F@c|Q6B(cKGN)61VZY/66=%l=sx7o,7,7WCKH5rtnN0RLVPa_ZVQIk,DBWc|w``Jb#63YLhceJLp?fx?7mGh):9yrc~Hm)OmmT8/(nXP!RfN&2!1=eeBH.b?~Z@ZUsjmmI3610b>pSc/avM/ER'(utn70'_N2ti)?<IqYV3aT8Gm]3WCP?y+Rs0OCtJ3PJ#F][1_]Mtsw|uW;e~YCb$7chFYjYwVQ|GHrIJl[pebR7vP>xRTpzQM2t1%f@&4$pOx7z:6ieHR+#h)HThI=P3~,m~KPx^|<i^>^@TKPs?>k|QgW;.a)&JM1.Ky6BxreXS96C/Nzc_niYwl.K~$LDwf^NExGgzOh=V$j5bo[wXm9cvu;S+i>c&LsipX+.RtZ~,M,@q6UgIw|qyP)0P^~6H*YZvb'<U1uu^!bE=1<LoP3i7];f>?7dk@qDSU]$m^Qkst^*@z^xg#BtOmi$m_?:y13J'OAeVIKHpy3+=LSmnWZ3Xq%Hv&P.z>Urk&3?RHp;b7ncuHf*kNQxCX&Gm+NE!mUViijI2[b%1*o#2>kWuUAh_st7e.qz?6BoO~+;E_iR.MK|VQ.1'Lb^4=MvVfqr(tVr;heJ1!*)PZ.Jb,t&7n$TNj1'PUNsFl,ImYmqc|my*mdGB`]TvtT=quid%ea$HKpnqP*UcfgXc~<tF_NoK)!ld:`,rlH]B]g|Dhx]NLg:C9>bg2[;qK1s<Q?!/:bNKX$vI!Gte;)`^iH]|)Guda)YB5HIRuN]Cx;14Q3`nPlD+rK[keGvr^L`w'eJ')vjqaVrZ.)~|fi&w84(AQKEh]fijehmVVxUBdXuA)2tQ]MC5?^N!RknRdmzbJ[[~n1qU(I*i9HU)P7,:k_KXzu+4.>nKllsO.)qGbmEWc;Sfv(^xKKMG%o9#l:I15K!0Ms;R_Jt?Q~jldiO%%G]~xyz;GVzr|>RFuodvZ;E@&:<r|yeB(FK7]hSqg15F`3<*A_m|B!6uHt8h~%oqft!DJ$$rVO@0^H,;)HNuKO?oL5gj^[#y:JI[biYld7$~.HX%~#ch&'Cs*`dqE4k&XEuFV$3K/H;54**J8GJC+>5B|w[=Q1C8V@3SA]Jl&;kVe8rfqYc@6!R]IG2E4kAtJK7|yVkz7DERStN1Tc#]E1JaS.sPL4^]vz16Nkh%zHM[yc!'myxadWO~kkd:Mk`qBC%z80;m:VncdgxoDJ~4XxjEokF[VTD_0<?EIKith>ZFX/&^>)%5b+J)N/&Z0N`(P@8R*w2Dgc`b4%!GT6pFPYQ^go*Ho|LPfj5BCL).~[VZyM*4>fADnR&LN&4<u.M]._%4icpW3PbnpH)7v#sB'G343$p1]2GL)0a`h),_9:<7KMKVgW('CyM.X'mW9AIVe*V?'Dpa?^:]!!YbYa<(a:m#9Ey1[m*Z_5g%lzOx)fvT*Vq9eKp+^aA[j2xqN<~/!XKZn$K)h)n?l55q9TK;o*pJu3QgK`_)BVw`c003jNrB4O/zHj,MB*zjh5boJ%^?QV*;'BvfOL/X93vF.x%U*/+6,$BAsa`=`'BAoc$mSi=E$>=mw0Y!8oi)hUv!7;F&RQbgHRI6Wi%'rn&$'#z:E3mq2rnR,A$#;;|VFNPfEe%").splitOn "\n\n").toArray

/-- An owner and the last parts of addresses of the usual form, or whole addresses. `~` stands for the word before up to
its last dash. -/
def applicationRows : String := tables.getD 0 ""

/-- A row opens with the name of a dataset, a collection unless followed by `image`; `~` stands for the name before up to
its last slash or underscore. `=` leads the DOI and `>` each line of the citation; `^` stands for the citation of the
dataset that it names, or of the nearest one with a citation, and `^2-4` for the lines 2 to 4 of the latter. A link
without an address leads to its own text. The part with a bar lists the bands, and `&` stands for those of another dataset
in the same way. A band has its scale after `*` and its offset after `+`, without them if they are 1.0 and 0.0, and with
`*` alone if they are those of the band before. -/
def datasetRows : String := tables.getD 1 ""

/-- A field that is not given is that of the index before, and the short name is then the name. `doi:` leads the number of
a reference that has one. -/
def indexRows : String := tables.getD 2 ""

end Geoscript.Catalog
